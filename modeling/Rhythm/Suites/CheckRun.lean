import Rhythm.BrowserMonitors.Queue
import Rhythm.Dynatrace.Rules
import Rhythm.Storage.SavedRun
import Rhythm.Suites.AlertGate

/-!
# Rhythm.Suites.CheckRun

The checks of a validation suite and the result of a check: what a worker of
`runStage` makes of the answers of the service that the kind of the check
names.  The services themselves are inputs.

`runCheck_required`: which results count as required.  An ELF query that ran
and a Dynatrace check are counted by their gate mode, every other result by the
flag of its check.
-/

namespace Rhythm.Suites.SuiteExecution

open Text Alerts

/-! ## Checks -/

/-- The kinds of checks; `default:` is the check of a monitor. -/
inductive CheckKind where
  | monitor | browserMonitor | elfQuery | openSearchAlert | dynatraceInfrastructure
  deriving DecidableEq

/-- `Check`, with the fields that its result is made of. -/
structure Check where
  id : String
  kind : CheckKind
  monitorId : String
  browserMonitorId : String
  queryId : String
  receiverId : String
  externalMonitorId : String
  externalTriggerId : String
  externalMonitorName : String
  externalTriggerName : String
  name : String
  required : Bool
  applicationId : String
  gateMode : String
  deriving DecidableEq

/-- `Stage`. -/
structure Stage where
  id : String
  name : String
  checks : List Check
  deriving DecidableEq

/-- `CheckResult`. -/
structure CheckResult where
  stageId : String
  stageName : String
  checkId : String
  monitorId : String
  browserMonitorId : String := ""
  kind : CheckKind
  queryId : String := ""
  queryRevisionId : String := ""
  elfRunId : String := ""
  alertId : Option AlertId := none
  receiverId : String := ""
  externalMonitorId : String := ""
  externalTriggerId : String := ""
  externalMonitorName : String := ""
  externalTriggerName : String := ""
  alertState : Option AlertState := none
  upstreamState : String := ""
  applicationId : String := ""
  serviceId : String := ""
  resolvedIndex : String := ""
  gateMode : String := ""
  decision : String := ""
  hitCount : Int := 0
  timeFrom : Option Time := none
  timeTo : Option Time := none
  name : String
  required : Bool
  status : String
  monitorRunId : String := ""
  browserRunId : String := ""
  failureCategory : String := ""
  failureReason : String := ""
  durationMs : Int := 0
  dynatraceRunId : String := ""
  deriving DecidableEq

def startedResult (stage : Stage) (check : Check) : CheckResult where
  stageId := stage.id
  stageName := stage.name
  checkId := check.id
  kind := check.kind
  monitorId := check.monitorId
  queryId := check.queryId
  receiverId := check.receiverId
  browserMonitorId := check.browserMonitorId
  externalMonitorId := check.externalMonitorId
  externalTriggerId := check.externalTriggerId
  externalMonitorName := check.externalMonitorName
  externalTriggerName := check.externalTriggerName
  name := check.name
  required := check.required
  status := "FAILED"

def CheckResult.withFailure (result : CheckResult) (category reason : String) : CheckResult :=
  { result with failureCategory := category, failureReason := reason }

/-! ## The answers of the services -/

/-- What `StartRun` and `waitForBrowserRun` answer. -/
inductive BrowserAnswer where
  /-- `s.browser == nil` -/
  | unavailable
  | startFailed (message : String)
  | waitFailed (runID message : String)
  | ended (runID : String) (status : BrowserMonitors.RunStatus)
      (failureCategory failureReason : String)
  deriving DecidableEq

/-- `elf.RunSummary`, with the fields that a result takes over. -/
structure ElfRun where
  id : String
  revisionId : String
  applicationId : String
  serviceId : String
  resolvedIndex : String
  gateMode : String
  decision : String
  hitCount : Int
  timeFrom : Time
  timeTo : Time
  status : String
  failureCategory : String
  failureReason : String
  deriving DecidableEq

/-- What `elf.Run` answers. -/
inductive ElfAnswer where
  /-- `s.elf == nil` -/
  | unavailable
  | failed (message : String)
  | ran (run : ElfRun)
  deriving DecidableEq

/-- What `dynatrace.Query` answers: a run also comes with an error. -/
inductive DynatraceAnswer where
  /-- `s.dynatrace == nil` -/
  | unavailable
  | queried (run : Dynatrace.Run) (queryErr : Option String)
  deriving DecidableEq

/-- What `StartTriggered` and `WaitForTerminal` answer. -/
inductive MonitorAnswer where
  | startFailed (message : String)
  | waitFailed (runID message : String)
  | ended (runID : String) (status : Runs.Status) (failureCategory failureReason : String)
  deriving DecidableEq

/-- What the services answer while one check is executed, and how long that takes. -/
structure Answers where
  monitor : MonitorAnswer
  browser : BrowserAnswer
  elf : ElfAnswer
  alerts : AlertServices
  dynatrace : DynatraceAnswer
  durationMs : Int

/-! ## Results -/

def browserStatusText : BrowserMonitors.RunStatus → String
  | .queued => "QUEUED"
  | .starting => "STARTING"
  | .running => "RUNNING"
  | .analyzing => "ANALYZING"
  | .success => "SUCCESS"
  | .successWithWarnings => "SUCCESS_WITH_WARNINGS"
  | .failed => "FAILED"
  | .timedOut => "TIMED_OUT"
  | .cancelled => "CANCELLED"
  | .aborted => "ABORTED"

/-- `case "BROWSER_MONITOR"`. -/
def runBrowserCheck (check : Check) (result : CheckResult) : BrowserAnswer → CheckResult
  | .unavailable =>
    result.withFailure "BROWSER_MONITORING_UNAVAILABLE" "Browser-monitor execution is unavailable."
  | .startFailed message => result.withFailure "BROWSER_EXECUTION_ERROR" (safeError message)
  | .waitFailed runID message =>
    { result.withFailure "BROWSER_EXECUTION_ERROR" (safeError message) with browserRunId := runID }
  | .ended runID status failureCategory failureReason =>
    let result := { result.withFailure failureCategory failureReason with
      browserRunId := runID
      status := browserStatusText status }
    match status with
    | .successWithWarnings =>
      if check.required then
        { result.withFailure "BROWSER_WARNING_BLOCKED"
            "The required browser journey completed with warnings." with status := "FAILED" }
      else { result with status := "WARNING" }
    | _ => result

/-- `case "ELF_QUERY"`. -/
def runElfCheck (result : CheckResult) : ElfAnswer → CheckResult
  | .unavailable => result.withFailure "ELF_UNAVAILABLE" "ELF execution is unavailable."
  | .failed message => result.withFailure "ELF_EXECUTION_ERROR" (safeError message)
  | .ran run =>
    let result := { result with
      elfRunId := run.id
      queryRevisionId := run.revisionId
      applicationId := run.applicationId
      serviceId := run.serviceId
      resolvedIndex := run.resolvedIndex
      gateMode := run.gateMode
      decision := run.decision
      hitCount := run.hitCount
      timeFrom := some run.timeFrom
      timeTo := some run.timeTo
      required := run.gateMode = "BLOCKING" }
    if run.status = "SUCCESS" ∧ run.decision = "PASS" then { result with status := "SUCCESS" }
    else { result.withFailure run.failureCategory run.failureReason with status := "FAILED" }

/-- `case "DYNATRACE_INFRASTRUCTURE"`. -/
def runDynatraceCheck (check : Check) (result : CheckResult) (answer : DynatraceAnswer) :
    CheckResult :=
  let result := { result with
    applicationId := check.applicationId
    gateMode := check.gateMode
    required := check.gateMode = "BLOCKING" }
  match answer with
  | .unavailable => result.withFailure "DYNATRACE_UNAVAILABLE" "Dynatrace execution is unavailable."
  | .queried run queryErr =>
    let result := { result with dynatraceRunId := run.id, decision := run.decision }
    if queryErr = none ∧ run.decision ≠ "BLOCK" then
      { result with
        status := if run.decision = "ALLOW_WITH_WARNINGS" then "WARNING" else "SUCCESS" }
    else
      result.withFailure (defaultString run.failureCategory "DYNATRACE_CHECK_FAILED")
        (defaultString run.failureReason ((queryErr.map safeError).getD ""))

/-- `default:`, the check of a monitor. -/
def runMonitorCheck (result : CheckResult) : MonitorAnswer → CheckResult
  | .startFailed message => result.withFailure "EXECUTION_ERROR" (safeError message)
  | .waitFailed runID message =>
    { result.withFailure "EXECUTION_ERROR" (safeError message) with monitorRunId := runID }
  | .ended runID status failureCategory failureReason =>
    { result.withFailure failureCategory failureReason with
      monitorRunId := runID
      status := Storage.statusText status }

def Check.alertCheck (stage : Stage) (check : Check) : AlertCheck where
  stageId := stage.id
  stageName := stage.name
  id := check.id
  kind := "OPENSEARCH_ALERT"
  receiverId := check.receiverId
  externalMonitorId := check.externalMonitorId
  externalTriggerId := check.externalTriggerId
  externalMonitorName := check.externalMonitorName
  externalTriggerName := check.externalTriggerName
  name := check.name
  required := check.required

def alertResult (result : AlertCheckResult) : CheckResult where
  stageId := result.check.stageId
  stageName := result.check.stageName
  checkId := result.check.id
  kind := .openSearchAlert
  monitorId := ""
  receiverId := result.check.receiverId
  externalMonitorId := result.check.externalMonitorId
  externalTriggerId := result.check.externalTriggerId
  externalMonitorName := result.externalMonitorName
  externalTriggerName := result.externalTriggerName
  alertId := result.alertId
  alertState := result.alertState
  upstreamState := result.upstreamState
  decision := result.decision
  name := result.name
  required := result.check.required
  status := result.status
  failureCategory := result.failureCategory
  failureReason := result.failureReason

/-- `Suite`, with the fields that a run reads. -/
structure Suite where
  stages : List Stage
  parallelism : Int
  failFast : Bool
  deriving DecidableEq

/-- A call of `executeSuiteRun`, with what an alert check takes from its libraries: `%q`, `LOWER`
and the order of rows that were updated at one time. -/
structure Call where
  suite : Suite
  deploymentStart : Option Time
  quote : String → String
  lower : String → String
  position : AlertId ↪ Nat

/-- What a worker of `runStage` makes of the answers to a check. -/
def runCheck (call : Call) (stage : Stage) (check : Check) (answers : Answers) : CheckResult :=
  let result := startedResult stage check
  let result :=
    match check.kind with
    | .browserMonitor => runBrowserCheck check result answers.browser
    | .elfQuery => runElfCheck result answers.elf
    | .openSearchAlert =>
      alertResult (evaluateOpenSearchAlertCheck call.quote call.lower call.position answers.alerts
        (check.alertCheck stage) call.deploymentStart)
    | .dynatraceInfrastructure => runDynatraceCheck check result answers.dynatrace
    | .monitor => runMonitorCheck result answers.monitor
  { result with durationMs := answers.durationMs }

def notStarted (stage : Stage) (check : Check) : CheckResult where
  stageId := stage.id
  stageName := stage.name
  checkId := check.id
  kind := check.kind
  monitorId := check.monitorId
  queryId := check.queryId
  name := check.name
  required := check.required
  status := "CANCELLED"
  failureCategory := "SUITE_CANCELLED"
  failureReason := "Check was not started."

theorem runElfCheck_ran (result : CheckResult) (run : ElfRun) :
    (runElfCheck result (.ran run)).checkId = result.checkId ∧
      (runElfCheck result (.ran run)).required = decide (run.gateMode = "BLOCKING") := by
  rw [runElfCheck]
  split <;> exact ⟨rfl, rfl⟩

end Rhythm.Suites.SuiteExecution
