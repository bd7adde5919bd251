import Mathlib.Data.List.Sort
import Rhythm.Storage.RunRepository

/-!
# Rhythm.ExecutionJobs.Service

The durable execution queue: how workers claim a queued job, keep its lease,
run it, complete it, and how expired leases are reclaimed.  Every transaction
is a function on the two tables (`claim`, `complete`, `reclaimExpiredBatch`);
`State` adds the clock and the executions that worker processes hold in
memory, and `step` is one transaction or one move of a worker.

Row locks make a transaction atomic, so a run of the system is a list of
actions in any order.  A worker's crash, and a `complete` that fails, are the
action `crash`: the execution is gone and the tables stay as they are.
-/

namespace Rhythm.ExecutionJobs

open Runs RunRepository

abbrev ExecutionId := Nat

/-! ## Polling -/

/-- The `WHERE` clause of the poll query of `consumePostgres`. -/
def Pollable (now : Time) (queueClass : QueueClass) (job : ExecutionJob) : Prop :=
  job.queueClass = queueClass ∧ job.status = .queued ∧ job.cancelRequestedAt = none ∧
    job.availableAt ≤ now

instance (now : Time) (queueClass : QueueClass) : DecidablePred (Pollable now queueClass) :=
  fun _ => inferInstanceAs (Decidable (_ ∧ _))

/-- `ORDER BY priority DESC,available_at,created_at`. -/
def PollsBefore (a b : ExecutionJob) : Prop :=
  b.priority < a.priority ∨ a.priority = b.priority ∧
    (a.availableAt < b.availableAt ∨ a.availableAt = b.availableAt ∧ a.createdAt ≤ b.createdAt)

instance : DecidableRel PollsBefore := fun _ _ => inferInstanceAs (Decidable (_ ∨ _))

/-- The poll query of `consumePostgres`: the next `available` job ids. -/
def poll (now : Time) (queueClass : QueueClass) (available : Nat) (jobs : JobTable) :
    List JobId :=
  (((jobs.rows.filter fun job => Pollable now queueClass job).insertionSort PollsBefore).take
    available).map ExecutionJob.id

/-! ## Claiming -/

/-- `claimOutcome`; a ready job comes with its run and its request. -/
inductive ClaimOutcome where
  | unavailable
  | ready (runID : RunId) (request : QueueRequest)
  | handled
  deriving DecidableEq

def skipRun (now : Time) (row : MonitorRun) : MonitorRun :=
  { row with
    status := .skipped
    endedAt := some now
    durationMs := now - row.createdAt
    failureCategory := "CONCURRENCY_POLICY"
    failureReason := "Skipped because an earlier execution of this monitor is still active." }

@[simp] theorem skipRun_status (now : Time) (row : MonitorRun) :
    (skipRun now row).status = .skipped := rfl

def skipJob (now : Time) (job : ExecutionJob) : ExecutionJob :=
  { job with status := .succeeded, completedAt := some now }

/-- `skipOverlapping`: the job succeeds, and its run is skipped if it has not
started. -/
def skipOverlapping (now : Time) (jobID : JobId) (runID : RunId) (db : Database) : Database where
  jobs := db.jobs.update (fun job => job.id = jobID) (skipJob now)
  runs := db.runs.update (fun row => row.id = runID ∧ row.status.isPending = true) (skipRun now)

def deferJob (now : Time) (job : ExecutionJob) : ExecutionJob :=
  { job with availableAt := now + 1000 }

/-- `deferOverlapping`: try again in one second. -/
def deferOverlapping (now : Time) (jobID : JobId) (db : Database) : Database :=
  { db with jobs := db.jobs.update (fun job => job.id = jobID) (deferJob now) }

/-- The lease that `claim` takes and `watchCancellation` renews: 90 seconds. -/
def leaseDuration : Time := 90000

def leaseJob (now : Time) (workerID : WorkerId) (job : ExecutionJob) : ExecutionJob :=
  { job with
    status := .leased
    leaseOwner := some workerID
    leaseExpiresAt := some (now + leaseDuration)
    attemptCount := job.attemptCount + 1
    startedAt := job.startedAt.or (some now) }

def overlapping (job : ExecutionJob) (jobs : JobTable) : Bool :=
  jobs.any fun other =>
    other.id ≠ job.id ∧ other.status = .leased ∧ other.payload.monitorId = job.payload.monitorId

/-- The `WHERE` clause of the leasing `UPDATE`. -/
def Claimable (jobID : JobId) (job : ExecutionJob) : Prop :=
  job.id = jobID ∧ job.status = .queued ∧ job.cancelRequestedAt = none

instance (jobID : JobId) : DecidablePred (Claimable jobID) :=
  fun _ => inferInstanceAs (Decidable (_ ∧ _))

/-- `claim`: lease a queued job, or settle it by its concurrency policy when
another job of the monitor is leased. -/
def claim (now : Time) (workerID : WorkerId) (jobID : JobId) (db : Database) :
    ClaimOutcome × Database :=
  match db.jobs.get? jobID with
  | none => (.unavailable, db)
  | some job =>
    if job.status ≠ .queued ∨ now < job.availableAt then (.unavailable, db)
    else if job.payload.policy ≠ .allow ∧ overlapping job db.jobs = true then
      if job.payload.policy = .skipIfRunning then
        (.handled, skipOverlapping now jobID job.runId db)
      else (.handled, deferOverlapping now jobID db)
    else if db.jobs.any (Claimable jobID) = true then
      (.ready job.runId job.payload,
        { db with jobs := db.jobs.update (Claimable jobID) (leaseJob now workerID) })
    else (.unavailable, db)

/-! ## Completing -/

/-- The run row of an execution that stopped without a result. -/
def abortRun (now : Time) (failureReason : String) (row : MonitorRun) : MonitorRun :=
  { row with
    status := .aborted
    failureCategory := "WORKER_LOST"
    failureReason := failureReason
    endedAt := some now
    durationMs := now - row.createdAt }

@[simp] theorem abortRun_status (now : Time) (failureReason : String) (row : MonitorRun) :
    (abortRun now failureReason row).status = .aborted := rfl

/-- The status `complete` gives the job. -/
def completedStatus (runErr cancelled : Bool) : JobStatus :=
  if cancelled then .cancelled else if runErr then .failed else .succeeded

def completeJob (now : Time) (status : JobStatus) (job : ExecutionJob) : ExecutionJob :=
  { job with status := status, completedAt := some now, leaseOwner := none, leaseExpiresAt := none }

/-- `complete`: the job is updated only under the worker's own lease
(`lease_owner = workerID`); the run of a failed execution is aborted unless it
is terminal, whoever holds the lease. -/
def complete (now : Time) (workerID : WorkerId) (jobID : JobId) (runID : RunId)
    (runErr cancelled : Bool) (db : Database) : Database where
  jobs := db.jobs.update (fun job => job.id = jobID ∧ job.leaseOwner = some workerID)
    (completeJob now (completedStatus runErr cancelled))
  runs :=
    if runErr then
      db.runs.update (fun row => row.id = runID ∧ row.status.isTerminal = false)
        (abortRun now "Execution stopped before a terminal result could be recorded.")
    else db.runs

/-! ## Reclaiming expired leases -/

/-- `status='LEASED' AND lease_expires_at<NOW()`. -/
def Expired (now : Time) (job : ExecutionJob) : Prop :=
  job.status = .leased ∧ (job.leaseExpiresAt.any fun expiresAt => expiresAt < now) = true

instance (now : Time) : DecidablePred (Expired now) :=
  fun _ => inferInstanceAs (Decidable (_ ∧ _))

/-- The rows that `reclaimExpiredBatch` locks: the 100 leases that expired
first among the rows no other transaction holds (`SKIP LOCKED`). -/
def expiredBatch (now : Time) (locked : List JobId) (jobs : JobTable) : List ExecutionJob :=
  ((jobs.rows.filter fun job => Expired now job ∧ job.id ∉ locked).insertionSort
    fun a b => a.leaseExpiresAt.getD 0 ≤ b.leaseExpiresAt.getD 0).take 100

def failLostJob (now : Time) (job : ExecutionJob) : ExecutionJob :=
  { job with
    status := .failed
    completedAt := some now
    leaseOwner := none
    leaseExpiresAt := none }

def requeueJob (now : Time) (job : ExecutionJob) : ExecutionJob :=
  { job with status := .queued, leaseOwner := none, leaseExpiresAt := none, availableAt := now }

def leaseExpiredReason : String :=
  "The worker lease expired. Rhythm did not replay the request because recovery was " ++
    "not explicitly safe."

/-- One round of the loop of `reclaimExpiredBatch`. -/
def reclaimItem (now : Time) (db : Database) (item : ExecutionJob) : Database :=
  if item.payload.recoverySafe then
    { db with jobs := db.jobs.update (fun job => job.id = item.id) (requeueJob now) }
  else
    { jobs := db.jobs.update (fun job => job.id = item.id) (failLostJob now)
      runs := db.runs.update (fun row => row.id = item.runId ∧ row.status.isTerminal = false)
        (abortRun now leaseExpiredReason) }

/-- `reclaimExpiredBatch`. -/
def reclaimExpiredBatch (now : Time) (locked : List JobId) (db : Database) : Database :=
  (expiredBatch now locked db.jobs).foldl (reclaimItem now) db

/-! ## Executions -/

/-- Where `process` stands: inside `ExecuteQueued`, or back from it, with or
without an error, and about to call `complete`. -/
inductive Phase where
  | executing
  | returned (runErr : Bool)
  deriving DecidableEq

/-- One call of `process` past its claim, in the memory of a worker process. -/
structure Execution where
  id : ExecutionId
  jobId : JobId
  runId : RunId
  workerID : WorkerId
  /-- The `run` variable of `runWithSnapshot`. -/
  run : MonitorRun
  /-- The last change of `run` has been saved. -/
  persisted : Bool
  /-- `runCtx` is cancelled. -/
  cancelled : Bool
  phase : Phase
  /-- The lease of this execution has been reclaimed.  No code reads this; it
  marks the executions that fencing is about. -/
  leaseLost : Bool
  deriving DecidableEq

/-- The run that `runWithSnapshot` starts with. -/
def startedRun (now : Time) (runID : RunId) (request : QueueRequest) : MonitorRun :=
  { queuedRun runID request with status := .running, startedAt := some now }

def startExecution (now : Time) (executionID : ExecutionId) (workerID : WorkerId)
    (jobID : JobId) (runID : RunId) (request : QueueRequest) : Execution where
  id := executionID
  jobId := jobID
  runId := runID
  workerID := workerID
  run := startedRun now runID request
  persisted := false
  cancelled := false
  phase := .executing
  leaseLost := false

/-- The in-memory run once the workflow has reached a result. -/
def settleRun (now : Time) (status : Status) (failureCategory failureReason : String)
    (run : MonitorRun) : MonitorRun :=
  { run with
    status := status
    failureCategory := failureCategory
    failureReason := failureReason
    endedAt := some now
    durationMs := now - run.startedAt.getD now }

/-- `UPDATE … WHERE id=$1 AND status='LEASED' AND lease_owner=$2` of
`watchCancellation`. -/
def OwnLease (workerID : WorkerId) (jobID : JobId) (job : ExecutionJob) : Prop :=
  job.id = jobID ∧ job.status = .leased ∧ job.leaseOwner = some workerID

instance (workerID : WorkerId) (jobID : JobId) : DecidablePred (OwnLease workerID jobID) :=
  fun _ => inferInstanceAs (Decidable (_ ∧ _))

def renewLease (now : Time) (job : ExecutionJob) : ExecutionJob :=
  { job with leaseExpiresAt := some (now + leaseDuration) }

/-- One tick of `watchCancellation`: whether the execution is to be cancelled —
its lease is gone or a cancellation was requested — and the job rows. -/
def watchCancellation (now : Time) (workerID : WorkerId) (jobID : JobId) (jobs : JobTable) :
    Bool × JobTable :=
  let cancel :=
    match jobs.rows.find? (OwnLease workerID jobID) with
    | none => true
    | some job => job.cancelRequestedAt.isSome
  (cancel, jobs.update (OwnLease workerID jobID) (renewLease now))

/-! ## The system -/

/-- The database, its clock and the executions of all worker processes. -/
structure State extends Database where
  now : Time
  executions : Table Execution Execution.id

def initial (now : Time) : State where
  now := now
  jobs := .empty
  runs := .empty
  executions := .empty

/-- One transaction, or one move of a worker process. -/
inductive Action where
  /-- Time passes. -/
  | tick (elapsed : Nat)
  | enqueue (jobID : JobId) (runID : RunId) (request : QueueRequest)
  | claim (workerID : WorkerId) (jobID : JobId) (executionID : ExecutionId)
  /-- The workflow of an execution reaches a result, in memory. -/
  | settle (executionID : ExecutionId) (status : Status)
      (failureCategory failureReason : String)
  /-- A save of the in-memory run that commits. -/
  | save (executionID : ExecutionId)
  /-- `ExecuteQueued` returns. -/
  | return (executionID : ExecutionId) (runErr : Bool)
  | watchCancellation (executionID : ExecutionId)
  /-- The context of the worker process is cancelled. -/
  | shutdown (executionID : ExecutionId)
  | complete (executionID : ExecutionId)
  /-- The worker process is lost, or its `complete` fails. -/
  | crash (executionID : ExecutionId)
  | requestCancel (runID : RunId)
  | reclaimExpiredBatch (locked : List JobId)
  deriving DecidableEq

/-- `ExecuteQueued` may return so: an error at any time (a save that fails, an
agent that is not found), a result only once the run is settled and saved — or
failed, as the early failures ignore the error of their save. -/
def Execution.MayReturn (execution : Execution) (runErr : Bool) : Prop :=
  runErr = true ∨
    execution.run.status.isTerminal = true ∧
      (execution.persisted = true ∨ execution.run.status = .failed)

instance (execution : Execution) (runErr : Bool) : Decidable (execution.MayReturn runErr) :=
  inferInstanceAs (Decidable (_ ∨ _))

def State.setExecution (s : State) (executionID : ExecutionId) (f : Execution → Execution)
    (hf : Table.KeepsKey Execution.id f := by exact ⟨fun _ => rfl⟩) : State :=
  { s with executions := s.executions.update (fun e => e.id = executionID) f hf }

/-- The ids of the jobs whose leases a reclaim takes away. -/
def State.reclaimedIds (s : State) (locked : List JobId) : List JobId :=
  (expiredBatch s.now locked s.jobs).map ExecutionJob.id

/-- **One step of the queue.**  `none` when the action is refused or rolls
back. -/
def step (s : State) : Action → Option State
  | .tick elapsed => some { s with now := s.now + elapsed }
  | .enqueue jobID runID request =>
    match enqueue jobID (queuedRun runID request) request s.toDatabase with
    | .error _ => none
    | .ok db => some { s with toDatabase := db }
  | .claim workerID jobID executionID =>
    match claim s.now workerID jobID s.toDatabase with
    | (.ready runID request, db) =>
      (s.executions.insert
        (startExecution s.now executionID workerID jobID runID request)).map fun executions =>
          { s with toDatabase := db, executions }
    | (_, db) => some { s with toDatabase := db }
  | .settle executionID status failureCategory failureReason =>
    match s.executions.get? executionID with
    | none => none
    | some e =>
      if e.phase = .executing ∧ e.run.status = .running ∧ status.isWorkerOutcome = true then
        some (s.setExecution executionID fun e =>
          { e with
            run := settleRun s.now status failureCategory failureReason e.run
            persisted := false })
      else none
  | .save executionID =>
    match s.executions.get? executionID with
    | none => none
    | some e =>
      if e.phase = .executing then
        let saved := s.setExecution executionID fun e => { e with persisted := true }
        some { saved with runs := save s.now e.run s.runs }
      else none
  | .return executionID runErr =>
    match s.executions.get? executionID with
    | none => none
    | some e =>
      if e.phase = .executing ∧ e.MayReturn runErr then
        some (s.setExecution executionID fun e => { e with phase := .returned runErr })
      else none
  | .watchCancellation executionID =>
    match s.executions.get? executionID with
    | none => none
    | some e =>
      if e.phase = .executing ∧ e.cancelled = false then
        let (cancel, jobs) := watchCancellation s.now e.workerID e.jobId s.jobs
        let watched := s.setExecution executionID fun e => { e with cancelled := cancel }
        some { watched with jobs := jobs }
      else none
  | .shutdown executionID =>
    match s.executions.get? executionID with
    | none => none
    | some e =>
      if e.phase = .executing then
        some (s.setExecution executionID fun e => { e with cancelled := true })
      else none
  | .complete executionID =>
    match s.executions.get? executionID with
    | none => none
    | some e =>
      match e.phase with
      | .executing => none
      | .returned runErr =>
        some { s with
          toDatabase := complete s.now e.workerID e.jobId e.runId runErr e.cancelled s.toDatabase
          executions := s.executions.deleteWhere fun e => e.id = executionID }
  | .crash executionID =>
    match s.executions.get? executionID with
    | none => none
    | some _ =>
      some { s with executions := s.executions.deleteWhere fun e => e.id = executionID }
  | .requestCancel runID =>
    some { s with toDatabase := (requestCancel s.now runID s.toDatabase).2 }
  | .reclaimExpiredBatch locked =>
    some { s with
      toDatabase := reclaimExpiredBatch s.now locked s.toDatabase
      executions := s.executions.update (fun e => e.jobId ∈ s.reclaimedIds locked)
        fun e => { e with leaseLost := true } }

end Rhythm.ExecutionJobs
