import Rhythm.Suites.Decision

/-!
# Rhythm.Suites.Samples

The monitors of a deployment validation: their baselines, their samples, and the
evidence that the gate decides on.  A sample and the evidence of its monitor
are built on two paths.  The sample takes its status from the execution that
was waited for; the evidence is a summary of the executions that can be
fetched afterwards.  A sample that never started has no execution, and an
execution of another revision keeps its own status.

The services that the validation calls — starting an execution, waiting for it,
reading it back, the history of a monitor — are inputs, with their errors.
-/

namespace Rhythm.Suites

open Runs

/-! ## Suites -/

inductive CheckKind where
  | monitor | browserMonitor | dynatraceInfrastructure | elfQuery | openSearchAlert
  deriving DecidableEq

/-- `Check`, with the fields that the deployment gate reads. -/
structure Check where
  id : String
  kind : CheckKind
  monitorId : MonitorId
  name : String
  required : Bool
  applicationId : String
  environmentBindingId : String
  serviceIds : List String
  ruleIds : List String
  gateMode : String
  deriving DecidableEq

structure Stage where
  id : String
  name : String
  checks : List Check
  deriving DecidableEq

/-- The suite snapshot of a deployment run. -/
structure Suite where
  stages : List Stage
  deriving DecidableEq

def Suite.checksOfKind (suite : Suite) (kind : CheckKind) : List Check :=
  (suite.stages.flatMap Stage.checks).filter fun check => check.kind = kind

/-- One check joins the comparisons: a monitor is compared once, and required when one of its
checks is. -/
def mergeMonitorCheck (comparisons : List MonitorComparison) (check : Check) :
    List MonitorComparison :=
  if comparisons.any fun comparison => comparison.monitorId = check.monitorId then
    comparisons.map fun comparison =>
      if comparison.monitorId = check.monitorId then
        { comparison with required := comparison.required || check.required }
      else comparison
  else
    comparisons ++
      [{ checkId := check.id
         monitorId := check.monitorId
         monitorName := check.name
         revisionId := none
         required := check.required
         baseline := emptyDistribution
         post := emptyDistribution
         comparison := ⟨.unset, 0, 0⟩
         steps := []
         samples := []
         reasons := [] }]

/-- `deploymentMonitorComparisons`. -/
def deploymentMonitorComparisons (suite : Suite) : List MonitorComparison :=
  (suite.checksOfKind .monitor).foldl mergeMonitorCheck []

/-! ## Services -/

/-- What becomes of one sample. -/
inductive SampleOutcome where
  /-- `StartTriggered` returned an error. -/
  | startFailed
  /-- `WaitForTerminal` returned an error. -/
  | waitFailed (runID : RunId)
  /-- The execution ended. -/
  | ended (runID : RunId) (executed : ExecutedRun)

def SampleOutcome.runId? : SampleOutcome → Option RunId
  | .startFailed => none
  | .waitFailed runID | .ended runID _ => some runID

/-- The services that `processDeployment` calls for its monitors. -/
structure MonitorServices where
  /-- `Monitor`: the name of the monitor. -/
  monitor : MonitorId → Except String String
  deploymentMetricPoints : MonitorId → Option RevisionId → Except String (List HistoryMetricPoint)
  /-- The samples of a monitor, by number. -/
  sample : MonitorId → Nat → SampleOutcome
  /-- `Get`; `none` stands for an error. -/
  get : RunId → Option ExecutedRun
  order : MapOrder StepGroup
  /-- The room in the slice of a monitor's baseline steps. -/
  spare : MonitorId → Nat

/-! ## The monitors of a validation -/

variable (services : MonitorServices) (config : DeploymentConfiguration)

def readBaseline (comparison : MonitorComparison) : Except String MonitorComparison :=
  match services.monitor comparison.monitorId with
  | .error message => .error message
  | .ok name =>
    let revision := config.monitorRevisionIds comparison.monitorId
    match services.deploymentMetricPoints comparison.monitorId revision with
    | .error message => .error message
    | .ok points =>
      .ok { comparison with
        monitorName := name
        revisionId := revision
        baseline := summarize points
        steps := baselineSteps services.order points
        reasons :=
          if (summarize points).sampleCount < config.minimumSamples then
            comparison.reasons ++ ["Fewer than five successful baseline samples were recorded."]
          else comparison.reasons }

/-- The loop over the monitors; the first error fails the validation. -/
def readBaselines : List MonitorComparison → Except String (List MonitorComparison)
  | [] => .ok []
  | comparison :: comparisons =>
    match readBaseline services config comparison with
    | .error message => .error message
    | .ok read =>
      match readBaselines comparisons with
      | .error message => .error message
      | .ok rest => .ok (read :: rest)

def takeSample (comparison : MonitorComparison) (number : Nat) : DeploymentSample :=
  match services.sample comparison.monitorId number with
  | .startFailed => ⟨comparison.monitorId, none, number, .failed, 0, "EXECUTION_ERROR"⟩
  | .waitFailed runID =>
    ⟨comparison.monitorId, some runID, number, .failed, 0, "EXECUTION_ERROR"⟩
  | .ended runID executed =>
    if some executed.revisionId ≠ comparison.revisionId then
      ⟨comparison.monitorId, some runID, number, .failed, executed.durationMs,
        "MONITOR_REVISION_CHANGED"⟩
    else
      ⟨comparison.monitorId, some runID, number, executed.status, executed.durationMs,
        executed.failureCategory⟩

def sampleMonitor (comparison : MonitorComparison) : MonitorComparison :=
  { comparison with
    samples := (List.range config.sampleCount).map fun i => takeSample services comparison (i + 1) }

/-- `classifyMonitor`. -/
def classifyMonitor (comparison : MonitorComparison) : MonitorComparison :=
  { comparison with
    comparison := classify comparison.baseline comparison.post config
    reasons := comparison.reasons ++
      ((comparison.steps.filter fun step => step.comparison.classification = .regressed).map
        fun step => "Step " ++ step.stepName ++ " exceeded its p95 regression guardrail.") ++
      if comparison.post.failureCount > 0 then
        [toString comparison.post.failureCount ++ " post-deployment samples failed."]
      else [] }

/-- The evidence of a monitor, from its samples whose execution can be fetched. -/
def evaluateMonitor (comparison : MonitorComparison) : MonitorComparison :=
  let points := comparison.samples.filterMap fun sample =>
    (sample.monitorRunId.bind services.get).map metricPoint
  classifyMonitor config
    { comparison with
      post := summarize points
      steps := completeSteps services.order (services.spare comparison.monitorId)
        comparison.steps points config }

def validateMonitor (comparison : MonitorComparison) : MonitorComparison :=
  evaluateMonitor services config (sampleMonitor services config comparison)

/-- The monitors that the decision reads, when every baseline could be read. -/
def validatedMonitors (suite : Suite) : Except String (List MonitorComparison) :=
  match readBaselines services config (deploymentMonitorComparisons suite) with
  | .error message => .error message
  | .ok comparisons => .ok (comparisons.map (validateMonitor services config))

/-- The gate decision of `processDeployment`, given the other evidence: a validation whose
baselines cannot be read fails with `BLOCK`. -/
def gateDecision (suite : Suite) (others : Evidence) : GateDecision :=
  match validatedMonitors services config suite with
  | .error _ => .block
  | .ok monitors => (deploymentDecisionWithBrowser { others with monitors := monitors }).1

end Rhythm.Suites
