import Rhythm.Alerts.Domain
import Rhythm.Suites.WorkflowJob
import Rhythm.Transition

/-!
# Rhythm.BrowserMonitors.Queue

Browser runs: a run row, the job of a queued run, and the workers that execute
it.  `execute` writes its progress and its end over the run row whatever the
row's status is; `CancelRun` and the reaper of expired leases look at the
status first.  The end of a run that the browser agent reports also moves the
health of its monitor and the monitor's journey alert.

Without a queue `StartRun` executes the run itself, in a goroutine.  What the
agent finds in a browser, artifacts, timings and events do not decide which
write wins and are left out; each statement of `execute` may fail, and a worker
may be lost at any point.
-/

namespace Rhythm.BrowserMonitors

open Alerts (AlertState)
open Suites (WorkflowJob WorkflowJobTable queuedWorkflowJob leaseWorkflowJob completeWorkflowJob
  cancelWorkflowJobs workflowCancelRequested WorkflowLeaseExpired reapWorkflowJobs)

abbrev ExecutionId := Nat

/-! ## Runs -/

/-- The statuses of a browser run. -/
inductive RunStatus where
  | queued | starting | running | analyzing
  | success | successWithWarnings | failed | timedOut | cancelled | aborted
  deriving DecidableEq

/-- `terminal`. -/
def terminal : RunStatus → Bool
  | .success | .successWithWarnings | .failed | .timedOut | .cancelled | .aborted => true
  | _ => false

/-- A row of `browser_runs`. -/
structure BrowserRun where
  id : RunId
  monitorId : MonitorId
  status : RunStatus
  cancelRequestedAt : Option Time
  failureCategory : String
  failureReason : String
  failedStepId : String
  warningCount : Nat
  endedAt : Option Time
  deriving DecidableEq

abbrev BrowserRunTable := Table BrowserRun BrowserRun.id

/-- The run that `StartRun` inserts. -/
def queuedRun (runID : RunId) (monitorID : MonitorId) : BrowserRun where
  id := runID
  monitorId := monitorID
  status := .queued
  cancelRequestedAt := none
  failureCategory := ""
  failureReason := ""
  failedStepId := ""
  warningCount := 0
  endedAt := none

/-- The part of a `RunnerResult` that the rows keep; `none` is the empty status. -/
structure RunnerResult where
  status : Option RunStatus
  warningCount : Nat
  artifactUploadFailures : Nat
  failureCategory : String
  failureReason : String
  failedStepId : String
  deriving DecidableEq

/-- The arguments of `finishFailure`. -/
structure Failure where
  category : String
  reason : String
  stepId : String
  deriving DecidableEq

/-- The status that `finishFailure` writes. -/
def Failure.status (failure : Failure) : RunStatus :=
  if failure.category = "CANCELLED" then .cancelled else .failed

/-- The status that `persistResult` writes. -/
def RunnerResult.endStatus (result : RunnerResult) : RunStatus := result.status.getD .success

/-- A write of `execute` to its run. -/
inductive RunWrite where
  /-- `updateRunState` -/
  | state (status : RunStatus)
  /-- `finishFailure` -/
  | failed (failure : Failure)
  /-- `persistResult` -/
  | ended (result : RunnerResult)
  deriving DecidableEq

def RunWrite.status : RunWrite → RunStatus
  | .state status => status
  | .failed failure => failure.status
  | .ended result => result.endStatus

def RunWrite.apply (now : Time) (write : RunWrite) (row : BrowserRun) : BrowserRun :=
  match write with
  | .state status => { row with status := status }
  | .failed failure =>
    { row with
      status := failure.status
      failureCategory := failure.category
      failureReason := failure.reason
      failedStepId := failure.stepId
      endedAt := some now }
  | .ended result =>
    { row with
      status := result.endStatus
      failureCategory := result.failureCategory
      failureReason := result.failureReason
      failedStepId := result.failedStepId
      warningCount := result.warningCount
      endedAt := some now }

@[simp] theorem RunWrite.status_apply (now : Time) (write : RunWrite) (row : BrowserRun) :
    (write.apply now row).status = write.status := by
  cases write <;> rfl

@[simp] theorem RunWrite.id_apply (now : Time) (write : RunWrite) (row : BrowserRun) :
    (write.apply now row).id = row.id := by
  cases write <;> rfl

@[simp] theorem RunWrite.monitorId_apply (now : Time) (write : RunWrite) (row : BrowserRun) :
    (write.apply now row).monitorId = row.monitorId := by
  cases write <;> rfl

/-- The row that `CancelRun` leaves: a run that has not started is over. -/
def cancelRow (now : Time) (row : BrowserRun) : BrowserRun :=
  if row.status = .queued then
    { row with
      status := .cancelled
      cancelRequestedAt := some now
      failureCategory := "CANCELLED"
      failureReason := "Browser run was cancelled before execution."
      endedAt := some now }
  else { row with cancelRequestedAt := some now }

def reapRow (now : Time) (row : BrowserRun) : BrowserRun :=
  { row with
    status := .aborted
    failureCategory := "AGENT_LOST"
    failureReason :=
      "The browser worker lease expired. Rhythm did not replay the journey because it may " ++
        "contain side effects."
    endedAt := some now }

/-! ## Monitors and their journey alerts -/

inductive Health where
  | noSignal | healthy | degraded | failing
  deriving DecidableEq

/-- A row of `browser_monitors`. -/
structure Monitor where
  id : MonitorId
  health : Health
  lastRunAt : Option Time
  lastStatus : Option RunStatus
  consecutiveFailures : Nat
  deriving DecidableEq

abbrev MonitorTable := Table Monitor Monitor.id

def newMonitor (monitorID : MonitorId) : Monitor where
  id := monitorID
  health := .noSignal
  lastRunAt := none
  lastStatus := none
  consecutiveFailures := 0

def RunStatus.failing (status : RunStatus) : Bool :=
  status = .failed || status = .timedOut || status = .aborted

/-- The health of a monitor whose run ended with the status. -/
def RunStatus.health (status : RunStatus) : Health :=
  if status.failing then .failing
  else if status = .successWithWarnings then .degraded
  else .healthy

/-- `consecutiveFailures` of `persistResult`: one more than the monitor had when it was read. -/
def RunStatus.failuresAfter (status : RunStatus) (monitor : Monitor) : Nat :=
  if status.failing then monitor.consecutiveFailures + 1 else 0

/-- A row of `alerts` with the key `browser-monitor:<monitor>:journey-failure`. -/
structure JourneyAlert where
  id : AlertId
  monitorId : MonitorId
  state : AlertState
  description : String
  failureCategory : String
  failedStepId : String
  consecutiveFailures : Nat
  firstTriggeredAt : Time
  lastTriggeredAt : Time
  resolvedAt : Option Time
  deriving DecidableEq

abbrev JourneyAlertTable := Table JourneyAlert JourneyAlert.id

/-- The monitor's alert that is `OPEN` or `ACKNOWLEDGED`. -/
def JourneyAlert.ActiveOf (monitorID : MonitorId) (alert : JourneyAlert) : Prop :=
  alert.monitorId = monitorID ∧ (alert.state = .open ∨ alert.state = .acknowledged)

instance (monitorID : MonitorId) : DecidablePred (JourneyAlert.ActiveOf monitorID) :=
  fun _ => inferInstanceAs (Decidable (_ ∧ _))

/-- `INSERT INTO alerts … ON CONFLICT … DO UPDATE`. -/
def observeFailure (now : Time) (newID : AlertId) (monitorID : MonitorId) (result : RunnerResult)
    (failures : Nat) (alerts : JourneyAlertTable) : Option JourneyAlertTable :=
  if alerts.any (JourneyAlert.ActiveOf monitorID) then
    some (alerts.update (JourneyAlert.ActiveOf monitorID) fun alert =>
      { alert with
        lastTriggeredAt := now
        consecutiveFailures := failures
        failureCategory := result.failureCategory
        failedStepId := result.failedStepId
        description := result.failureReason })
  else
    alerts.insert
      { id := newID
        monitorId := monitorID
        state := .open
        description := result.failureReason
        failureCategory := result.failureCategory
        failedStepId := result.failedStepId
        consecutiveFailures := failures
        firstTriggeredAt := now
        lastTriggeredAt := now
        resolvedAt := none }

/-- `updateBrowserAlert`. -/
def updateBrowserAlert (now : Time) (newID : AlertId) (monitorID : MonitorId)
    (result : RunnerResult) (failures : Nat) (alerts : JourneyAlertTable) :
    Option JourneyAlertTable :=
  if result.endStatus = .success ∨ result.endStatus = .successWithWarnings then
    some (alerts.update (JourneyAlert.ActiveOf monitorID) fun alert =>
      { alert with state := .resolved, resolvedAt := some now })
  else if result.endStatus.failing = false then some alerts
  else if failures < 2 then some alerts
  else observeFailure now newID monitorID result failures alerts

/-! ## Workers -/

/-- How the preparation of a run ends. -/
inductive Preparation where
  | ready
  | configurationError (reason : String)
  | baselinesFailed
  | uploadsFailed
  | sessionExpired (reason : String)
  deriving DecidableEq

def Preparation.failure? : Preparation → Option Failure
  | .ready => none
  | .configurationError reason => some ⟨"CONFIGURATION_ERROR", reason, ""⟩
  | .baselinesFailed =>
    some ⟨"ARTIFACT_POLICY_BLOCKED", "Approved visual baselines could not be loaded.", ""⟩
  | .uploadsFailed =>
    some ⟨"ARTIFACT_POLICY_BLOCKED", "Browser artifact upload slots could not be prepared.", ""⟩
  | .sessionExpired reason => some ⟨"SESSION_EXPIRED", reason, ""⟩

/-- Where an execution stands. -/
inductive Stage where
  /-- `StartRun` without a queue has read the monitor. -/
  | inserting
  /-- The job is claimed, the run not loaded yet. -/
  | claimed
  | loaded
  | preparing
  | prepared
  | running
  | analyzing (result : RunnerResult)
  | persistingArtifacts (result : RunnerResult)
  | persisting (result : RunnerResult)
  /-- `finishFailure` is next. -/
  | failing (failure : Failure)
  /-- `execute` has returned. -/
  | returned
  /-- The run was not loaded. -/
  | loadFailed
  /-- `completeBrowserJob` has called `finishFailure`. -/
  | completing
  deriving DecidableEq

/-- A call of `processBrowserJob` past its claim, or of `StartRun` without a queue. -/
structure Worker where
  id : ExecutionId
  jobId : Option JobId
  runId : RunId
  workerID : WorkerId
  /-- The monitor as it was read. -/
  monitor : Option Monitor
  stage : Stage
  cancelRequested : Bool
  contextCancelled : Bool
  deriving DecidableEq

/-- One statement of `execute`, and its outcome. -/
inductive Move where
  | updateRunState (saved : Bool)
  | prepare (preparation : Preparation)
  | runnerExecute (result : Option RunnerResult)
  | persistArtifacts (failed : Bool)
  | persistResult (newAlertID : AlertId) (committed : Bool)
  | finishFailure (saved : Bool)
  deriving DecidableEq

def RunnerResult.withArtifacts (result : RunnerResult) (failed : Bool) : RunnerResult :=
  let warningCount :=
    if failed = true ∨ 0 < result.artifactUploadFailures then result.warningCount + 1
    else result.warningCount
  { result with
    warningCount := warningCount
    status :=
      if result.status = some .success ∧ 0 < warningCount then some .successWithWarnings
      else result.status }

/-- The failure of a run that the agent did not execute to its end. -/
def agentFailure (contextCancelled : Bool) : Failure :=
  if contextCancelled then ⟨"CANCELLED", "Browser run was cancelled.", ""⟩
  else ⟨"AGENT_LOST", "Browser agent could not complete the execution.", ""⟩

/-- The stage after a statement; the last two are those of `completeBrowserJob`. -/
def Worker.next (worker : Worker) : Move → Option Stage
  | .updateRunState _ =>
    match worker.stage with
    | .loaded => some .preparing
    | .prepared => some .running
    | .analyzing result => some (.persistingArtifacts result)
    | _ => none
  | .prepare preparation =>
    match worker.stage with
    | .preparing => some (preparation.failure?.elim .prepared .failing)
    | _ => none
  | .runnerExecute result =>
    match worker.stage with
    | .running => some (result.elim (.failing (agentFailure worker.contextCancelled)) .analyzing)
    | _ => none
  | .persistArtifacts failed =>
    match worker.stage with
    | .persistingArtifacts result => some (.persisting (result.withArtifacts failed))
    | _ => none
  | .persistResult _ committed =>
    match worker.stage with
    | .persisting result =>
      some (if committed then .returned
        else .failing ⟨"WORKER_LOST", "Browser result could not be persisted.",
          result.failedStepId⟩)
    | _ => none
  | .finishFailure _ =>
    match worker.stage with
    | .failing _ => some .returned
    | .loadFailed => if worker.cancelRequested then none else some .completing
    | _ => none

def Worker.write? (worker : Worker) : Move → Option RunWrite
  | .updateRunState true =>
    match worker.stage with
    | .loaded => some (.state .starting)
    | .prepared => some (.state .running)
    | .analyzing _ => some (.state .analyzing)
    | _ => none
  | .persistResult _ true =>
    match worker.stage with
    | .persisting result => some (.ended result)
    | _ => none
  | .finishFailure true =>
    match worker.stage with
    | .failing failure => some (.failed failure)
    | .loadFailed =>
      some (.failed ⟨"WORKER_LOST",
        "Browser execution stopped before a terminal result could be recorded.", ""⟩)
    | _ => none
  | _ => none

/-! ## The system -/

/-- The tables, the clock and the workers. -/
structure State where
  now : Time
  monitors : MonitorTable
  alerts : JourneyAlertTable
  runs : BrowserRunTable
  jobs : WorkflowJobTable
  workers : Table Worker Worker.id

def initial (now : Time) : State where
  now := now
  monitors := .empty
  alerts := .empty
  runs := .empty
  jobs := .empty
  workers := .empty

/-- One transaction, or one move of a worker. -/
inductive Action where
  | tick (elapsed : Nat)
  | createMonitor (monitorID : MonitorId)
  /-- `StartRun` with the queue. -/
  | startRun (monitorID : MonitorId) (runID : RunId) (jobID : JobId)
  /-- `StartRun` without the queue reads the monitor. -/
  | getMonitor (executionID : ExecutionId) (workerID : WorkerId) (monitorID : MonitorId)
      (runID : RunId)
  /-- It inserts its run, and executes it. -/
  | insertRun (executionID : ExecutionId)
  | claimBrowserJob (workerID : WorkerId) (jobID : JobId) (executionID : ExecutionId)
  /-- The reads of `executeQueuedBrowserRun`, and whether they succeed. -/
  | load (executionID : ExecutionId) (succeeds : Bool)
  | execute (executionID : ExecutionId) (move : Move)
  | watchBrowserJob (executionID : ExecutionId)
  /-- The context is cancelled: `CancelRun` without a queue, or a shutdown. -/
  | cancelContext (executionID : ExecutionId)
  | completeBrowserJob (executionID : ExecutionId)
  /-- The worker is lost, or returns without completing its job. -/
  | crash (executionID : ExecutionId)
  | cancelRun (runID : RunId)
  | reapExpiredBrowserJobs (locked : List JobId)
  | acknowledge (alertID : AlertId)
  | resolve (alertID : AlertId)
  deriving DecidableEq

def State.setWorker (s : State) (executionID : ExecutionId) (f : Worker → Worker)
    (hf : Table.KeepsKey Worker.id f := by exact ⟨fun _ => rfl⟩) : State :=
  { s with workers := s.workers.update (fun w => w.id = executionID) f hf }

def writeRun (now : Time) (runID : RunId) (write : Option RunWrite) (runs : BrowserRunTable) :
    BrowserRunTable :=
  match write with
  | none => runs
  | some write =>
    runs.update (fun row => row.id = runID) (write.apply now) ⟨fun row => write.id_apply now row⟩

/-- The health part of `persistResult`. -/
def updateHealth (now : Time) (monitor : Monitor) (status : RunStatus) (monitors : MonitorTable) :
    MonitorTable :=
  monitors.update (fun row => row.id = monitor.id) fun row =>
    { row with
      health := status.health
      lastRunAt := some now
      lastStatus := some status
      consecutiveFailures := status.failuresAfter monitor }

/-- The monitors and alerts after a statement: `persistResult` moves them when it commits. -/
def Worker.bookkeeping (worker : Worker) (now : Time) (move : Move) (monitors : MonitorTable)
    (alerts : JourneyAlertTable) : Option (MonitorTable × JourneyAlertTable) :=
  match worker.write? move, worker.monitor, move with
  | some (.ended result), some monitor, .persistResult newAlertID _ =>
    (updateBrowserAlert now newAlertID monitor.id result
        (result.endStatus.failuresAfter monitor) alerts).map fun alerts =>
      (updateHealth now monitor result.endStatus monitors, alerts)
  | some (.ended _), none, _ => none
  | _, _, _ => some (monitors, alerts)

def browserLeaseDuration : Time := 150000

/-- The leased row of `claimBrowserJob`. -/
def leaseBrowserJob (now : Time) (workerID : WorkerId) (job : WorkflowJob) : WorkflowJob :=
  { leaseWorkflowJob now workerID job with leaseExpiresAt := some (now + browserLeaseDuration) }

/-- The job rows after a tick of `watchBrowserJob`. -/
def renewBrowserLease (now : Time) (workerID : WorkerId) (jobID : JobId)
    (jobs : WorkflowJobTable) : WorkflowJobTable :=
  jobs.update (fun job => job.id = jobID ∧ job.status = .leased ∧ job.leaseOwner = some workerID)
    fun job => { job with leaseExpiresAt := some (now + browserLeaseDuration) }

def holdsLease (workerID : WorkerId) (jobID : JobId) (jobs : WorkflowJobTable) : Bool :=
  jobs.any fun job => job.id = jobID ∧ job.status = .leased ∧ job.leaseOwner = some workerID

/-- The rows that a reaper locks: at most 50 expired leases that no other transaction holds. -/
def expiredBrowserJobs (now : Time) (locked : List JobId) (jobs : WorkflowJobTable) :
    List WorkflowJob :=
  ((jobs.rows.filter fun job => WorkflowLeaseExpired now job ∧ job.id ∉ locked).insertionSort
    fun a b => a.leaseExpiresAt.getD 0 ≤ b.leaseExpiresAt.getD 0).take 50

theorem mem_of_mem_expiredBrowserJobs {now : Time} {locked : List JobId}
    {jobs : WorkflowJobTable} {item : WorkflowJob}
    (h : item ∈ expiredBrowserJobs now locked jobs) : item ∈ jobs ∧ item.status = .leased := by
  have hsorted := List.mem_of_mem_take h
  rw [List.mem_insertionSort, List.mem_filter] at hsorted
  have hexpired := of_decide_eq_true hsorted.2
  exact ⟨hsorted.1, hexpired.1.1⟩

/-- Whether `completeBrowserJob` is next: past `execute`, or past a failed load, whose
`finishFailure` a cancelled execution skips. -/
def Worker.mayComplete (worker : Worker) : Bool :=
  match worker.stage with
  | .returned | .completing => true
  | .loadFailed => worker.cancelRequested
  | _ => false

/-- **One step of the browser queue.** -/
def step (s : State) : Action → Option State
  | .tick elapsed => some { s with now := s.now + elapsed }
  | .createMonitor monitorID =>
    (s.monitors.insert (newMonitor monitorID)).map fun monitors => { s with monitors }
  | .startRun monitorID runID jobID =>
    match s.monitors.get? monitorID, s.runs.insert (queuedRun runID monitorID),
        s.jobs.insert (queuedWorkflowJob jobID runID) with
    | some _, some runs, some jobs => some { s with runs, jobs }
    | _, _, _ => none
  | .getMonitor executionID workerID monitorID runID =>
    match s.monitors.get? monitorID with
    | none => none
    | some monitor =>
      (s.workers.insert
          ⟨executionID, none, runID, workerID, some monitor, .inserting, false, false⟩).map
        fun workers => { s with workers }
  | .insertRun executionID =>
    match s.workers.get? executionID with
    | none => none
    | some worker =>
      match worker.stage, worker.monitor with
      | .inserting, some monitor =>
        (s.runs.insert (queuedRun worker.runId monitor.id)).map fun runs =>
          { s.setWorker executionID fun w => { w with stage := .loaded } with runs }
      | _, _ => none
  | .claimBrowserJob workerID jobID executionID =>
    match s.jobs.get? jobID with
    | none => none
    | some job =>
      if job.status = .queued ∧ job.cancelRequestedAt = none then
        (s.workers.insert
            ⟨executionID, some jobID, job.runId, workerID, none, .claimed, false, false⟩).map
          fun workers =>
            { s with
              jobs := s.jobs.update (fun row => row.id = jobID) (leaseBrowserJob s.now workerID)
              workers }
      else none
  | .load executionID succeeds =>
    match s.workers.get? executionID with
    | none => none
    | some worker =>
      if worker.stage = .claimed then
        match (s.runs.get? worker.runId).bind fun run => s.monitors.get? run.monitorId with
        | some monitor =>
          if succeeds then
            some (s.setWorker executionID fun w =>
              { w with monitor := some monitor, stage := .loaded })
          else some (s.setWorker executionID fun w => { w with stage := .loadFailed })
        | none => some (s.setWorker executionID fun w => { w with stage := .loadFailed })
      else none
  | .execute executionID move =>
    match s.workers.get? executionID with
    | none => none
    | some worker =>
      match worker.next move, worker.bookkeeping s.now move s.monitors s.alerts with
      | some stage, some (monitors, alerts) =>
        some { s.setWorker executionID fun w => { w with stage := stage } with
          monitors, alerts, runs := writeRun s.now worker.runId (worker.write? move) s.runs }
      | _, _ => none
  | .watchBrowserJob executionID =>
    match s.workers.get? executionID with
    | none => none
    | some worker =>
      match worker.jobId with
      | none => none
      | some jobID =>
        let requested := workflowCancelRequested worker.workerID jobID s.jobs
        let stopped := requested || !holdsLease worker.workerID jobID s.jobs
        some { s.setWorker executionID fun w =>
            { w with
              cancelRequested := w.cancelRequested || requested
              contextCancelled := w.contextCancelled || stopped } with
          jobs := renewBrowserLease s.now worker.workerID jobID s.jobs }
  | .cancelContext executionID =>
    some (s.setWorker executionID fun w => { w with contextCancelled := true })
  | .completeBrowserJob executionID =>
    match s.workers.get? executionID with
    | none => none
    | some worker =>
      if worker.mayComplete then
        some { s with
          jobs := match worker.jobId with
            | none => s.jobs
            | some jobID =>
              completeWorkflowJob s.now worker.workerID jobID (worker.stage = .completing)
                (worker.cancelRequested && worker.stage ≠ .completing) s.jobs
          workers := s.workers.deleteWhere fun w => w.id = executionID }
      else none
  | .crash executionID =>
    some { s with workers := s.workers.deleteWhere fun w => w.id = executionID }
  | .cancelRun runID =>
    if s.runs.any (fun row => row.id = runID ∧ terminal row.status = false) then
      some { s with
        runs := s.runs.update (fun row => row.id = runID ∧ terminal row.status = false)
          (cancelRow s.now) ⟨fun row => by unfold cancelRow; split <;> rfl⟩
        jobs := cancelWorkflowJobs s.now runID s.jobs }
    else none
  | .reapExpiredBrowserJobs locked =>
    let expired := expiredBrowserJobs s.now locked s.jobs
    some { s with
      jobs := reapWorkflowJobs s.now expired s.jobs
      runs := expired.foldl (fun runs item =>
        runs.update (fun row => row.id = item.runId ∧ terminal row.status = false)
          (reapRow s.now)) s.runs }
  | .acknowledge alertID =>
    some { s with
      alerts := s.alerts.update (fun alert => alert.id = alertID ∧ alert.state = .open)
        fun alert => { alert with state := .acknowledged } }
  | .resolve alertID =>
    some { s with
      alerts := s.alerts.update
        (fun alert => alert.id = alertID ∧ (alert.state = .open ∨ alert.state = .acknowledged))
        fun alert => { alert with state := .resolved, resolvedAt := some s.now } }

end Rhythm.BrowserMonitors
