import Rhythm.Table

/-!
# Rhythm.Runs.Domain

The rows that a monitor execution is made of: the run (`monitor_runs`), the
request it was queued with (`QueueRequest`, the job's payload) and the durable
job (`execution_jobs`).  Identifiers are opaque — the code only compares
them — and times are milliseconds on the database clock.
-/

namespace Rhythm

abbrev MonitorId := Nat
abbrev RevisionId := Nat
abbrev RunId := Nat
abbrev JobId := Nat
abbrev WorkerId := Nat
abbrev Time := Nat

namespace Runs

/-! ## Run statuses -/

/-- The statuses of a run.  `skipped` is the text `SKIPPED` that a skipped
overlapping execution is stored with; `skippedCondition` is
`StatusSkipped = "SKIPPED_CONDITION"`, the status of a step. -/
inductive Status where
  | queued | starting | running
  | success | successWithWarnings | failed | timedOut | cancelled | aborted
  | skippedCondition | skipped
  deriving DecidableEq

/-- `isTerminal` of the repository and `isTerminalStatus` of the service: the
six statuses a worker or a reaper ends a run with. -/
def Status.isTerminal : Status → Bool
  | .success | .successWithWarnings | .failed | .timedOut | .cancelled | .aborted => true
  | _ => false

/-- The statuses after which nothing is left to execute: the terminal ones and
`SKIPPED`, which the status lists of the SQL statements leave out. -/
def Status.isFinal (status : Status) : Bool := status.isTerminal || status = .skipped

def Status.isPending : Status → Bool
  | .queued | .starting => true
  | _ => false

/-- The statuses `runWithSnapshot` ends a run with. -/
def Status.isWorkerOutcome : Status → Bool
  | .success | .failed | .timedOut | .cancelled => true
  | _ => false

variable {status : Status}

@[simp] theorem Status.isFinal_of_isTerminal (h : status.isTerminal = true) :
    status.isFinal = true := by
  simp [isFinal, h]

theorem Status.isFinal_iff :
    status.isFinal = true ↔ status.isTerminal = true ∨ status = .skipped := by
  simp [isFinal]

theorem Status.not_isFinal_of_isPending (h : status.isPending = true) :
    status.isFinal = false := by
  cases status <;> simp_all [isPending, isFinal, isTerminal]

/-! ## Runs -/

/-- What started a run.  A caller may pass any text as an override. -/
inductive TriggerType where
  | manualDraft | manualPublished | scheduled
  | other (name : String)
  deriving DecidableEq

/-- A row of `monitor_runs`; also the run a worker holds in memory.  A `NULL`
text is `""`. -/
structure MonitorRun where
  id : RunId
  monitorId : MonitorId
  revisionId : RevisionId
  status : Status
  triggerType : TriggerType
  failureCategory : String
  failureReason : String
  failedStepId : String
  durationMs : Nat
  startedAt : Option Time
  endedAt : Option Time
  createdAt : Time
  cancelRequestedAt : Option Time
  terminalProcessedAt : Option Time
  deriving DecidableEq

/-- `monitor_runs`. -/
abbrev RunTable := Table MonitorRun MonitorRun.id

/-! ## Queue requests -/

/-- `concurrencyPolicy` of a schedule. -/
inductive ConcurrencyPolicy where
  | allow | skipIfRunning | queue
  deriving DecidableEq

/-- `QueueRequest`, the payload of an execution job.  `none` stands for a
field left empty; the frozen definition is not read by the queue. -/
structure QueueRequest where
  monitorId : MonitorId
  revisionId : RevisionId
  /-- `mode` is `"published"`. -/
  published : Bool
  triggerType : Option TriggerType
  concurrencyPolicy : Option ConcurrencyPolicy
  deduplication : Option String
  queuedAt : Time
  recoverySafe : Bool
  deriving DecidableEq

/-- The trigger type of the run: the mode's own, unless the request overrides it
(`resolveExecution`, `runWithSnapshot`). -/
def QueueRequest.runTriggerType (request : QueueRequest) : TriggerType :=
  request.triggerType.getD (if request.published then .manualPublished else .manualDraft)

/-- The policy `claim` applies: an empty one is `ALLOW`. -/
def QueueRequest.policy (request : QueueRequest) : ConcurrencyPolicy :=
  request.concurrencyPolicy.getD .allow

end Runs

/-! ## Execution jobs -/

namespace ExecutionJobs

open Runs

/-- The statuses that the schema admits for a job. -/
inductive JobStatus where
  | queued | leased | succeeded | failed | cancelled | deadLetter
  deriving DecidableEq

/-- The statuses an `API_MONITOR_RUN` job ends with. -/
def JobStatus.isTerminal : JobStatus → Bool
  | .succeeded | .failed | .cancelled => true
  | _ => false

/-- `queue_class` of an execution job. -/
inductive QueueClass where
  | manual | scheduled
  deriving DecidableEq

/-- A row of `execution_jobs` with `job_type = 'API_MONITOR_RUN'`. -/
structure ExecutionJob where
  id : JobId
  runId : RunId
  queueClass : QueueClass
  priority : Nat
  payload : QueueRequest
  deduplicationKey : Option String
  status : JobStatus
  availableAt : Time
  attemptCount : Nat
  leaseOwner : Option WorkerId
  leaseExpiresAt : Option Time
  cancelRequestedAt : Option Time
  startedAt : Option Time
  completedAt : Option Time
  createdAt : Time
  deriving DecidableEq

/-- `execution_jobs`, restricted to the API monitor runs. -/
abbrev JobTable := Table ExecutionJob ExecutionJob.id

end ExecutionJobs

end Rhythm
