import Mathlib.Data.List.Sort
import Rhythm.Runs.Domain

/-!
# Rhythm.Suites.WorkflowJob

The durable jobs of deployment validations and validation suites.  Both kinds
live in `execution_jobs` and are moved by the same statements — a claim, a
lease renewal, a fenced completion, a cancellation and a reaper that never
replays lost work — so they are one table here, which the queues of the two
kinds instantiate.
-/

namespace Rhythm.Suites

open ExecutionJobs (JobStatus)

abbrev ValidationRunId := Nat
abbrev ExecutionId := Nat

/-- What a gate lets through.  A run that has not decided is `PENDING`. -/
inductive GateDecision where
  | pending | allow | allowWithWarnings | block
  deriving DecidableEq

/-- A row of `execution_jobs` with `job_type` `DEPLOYMENT_VALIDATION` or
`VALIDATION_SUITE`. -/
structure WorkflowJob where
  id : JobId
  runId : ValidationRunId
  status : JobStatus
  attemptCount : Nat
  leaseOwner : Option WorkerId
  leaseExpiresAt : Option Time
  cancelRequestedAt : Option Time
  startedAt : Option Time
  completedAt : Option Time
  deriving DecidableEq

/-- The jobs of one kind. -/
abbrev WorkflowJobTable := Table WorkflowJob WorkflowJob.id

def queuedWorkflowJob (jobID : JobId) (runID : ValidationRunId) : WorkflowJob where
  id := jobID
  runId := runID
  status := .queued
  attemptCount := 0
  leaseOwner := none
  leaseExpiresAt := none
  cancelRequestedAt := none
  startedAt := none
  completedAt := none

/-! ## Claiming and leasing -/

def workflowLeaseDuration : Time := 90000

def leaseWorkflowJob (now : Time) (workerID : WorkerId) (job : WorkflowJob) : WorkflowJob :=
  { job with
    status := .leased
    leaseOwner := some workerID
    leaseExpiresAt := some (now + workflowLeaseDuration)
    attemptCount := job.attemptCount + 1
    startedAt := job.startedAt.or (some now) }

/-- `claimDeploymentJob` and the job part of `claimSuiteJob`: the run of the
claimed job and the leased row, or nothing when the job is not queued or was
cancelled. -/
def claimWorkflowJob (now : Time) (workerID : WorkerId) (jobID : JobId)
    (jobs : WorkflowJobTable) : Option (ValidationRunId × WorkflowJobTable) :=
  match jobs.get? jobID with
  | none => none
  | some job =>
    if job.status = .queued ∧ job.cancelRequestedAt = none then
      some (job.runId, jobs.update (fun row => row.id = jobID) (leaseWorkflowJob now workerID))
    else none

/-- The job rows after one tick of `watchDeploymentJob` or `watchSuiteJob`. -/
def renewWorkflowLease (now : Time) (workerID : WorkerId) (jobID : JobId)
    (jobs : WorkflowJobTable) : WorkflowJobTable :=
  jobs.update (fun job => job.id = jobID ∧ job.status = .leased ∧ job.leaseOwner = some workerID)
    fun job => { job with leaseExpiresAt := some (now + workflowLeaseDuration) }

/-- The rows that the tick renews carry a cancellation request. -/
def workflowCancelRequested (workerID : WorkerId) (jobID : JobId) (jobs : WorkflowJobTable) :
    Bool :=
  jobs.any fun job => job.id = jobID ∧ job.status = .leased ∧ job.leaseOwner = some workerID ∧
    job.cancelRequestedAt.isSome = true

/-! ## Completing, cancelling and reaping -/

/-- `completeDeploymentJob` and `completeSuiteJob`, fenced by the lease owner. -/
def completeWorkflowJob (now : Time) (workerID : WorkerId) (jobID : JobId)
    (runErr cancelled : Bool) (jobs : WorkflowJobTable) : WorkflowJobTable :=
  jobs.update (fun job => job.id = jobID ∧ job.leaseOwner = some workerID) fun job =>
    { job with
      status := if cancelled then .cancelled else if runErr then .failed else .succeeded
      completedAt := some now
      leaseOwner := none
      leaseExpiresAt := none }

def cancelWorkflowJobs (now : Time) (runID : ValidationRunId) (jobs : WorkflowJobTable) :
    WorkflowJobTable :=
  jobs.update (fun job => job.runId = runID ∧ (job.status = .queued ∨ job.status = .leased))
    fun job =>
      { job with
        cancelRequestedAt := some now
        status := if job.status = .queued then .cancelled else job.status
        completedAt := if job.status = .queued then some now else job.completedAt }

/-- `status='LEASED' AND lease_expires_at<NOW()`. -/
def WorkflowLeaseExpired (now : Time) (job : WorkflowJob) : Prop :=
  job.status = .leased ∧ (job.leaseExpiresAt.any fun expiresAt => expiresAt < now) = true

instance (now : Time) : DecidablePred (WorkflowLeaseExpired now) :=
  fun _ => inferInstanceAs (Decidable (_ ∧ _))

/-- The rows a reaper locks: at most 20 expired leases that no other transaction
holds. -/
def expiredWorkflowJobs (now : Time) (locked : List JobId) (jobs : WorkflowJobTable) :
    List WorkflowJob :=
  ((jobs.rows.filter fun job => WorkflowLeaseExpired now job ∧ job.id ∉ locked).insertionSort
    fun a b => a.leaseExpiresAt.getD 0 ≤ b.leaseExpiresAt.getD 0).take 20

/-- The job rows after a reaper's loop: lost work is failed, never replayed. -/
def reapWorkflowJobs (now : Time) (expired : List WorkflowJob) (jobs : WorkflowJobTable) :
    WorkflowJobTable :=
  expired.foldl (fun jobs item => jobs.update (fun job => job.id = item.id) fun job =>
    { job with
      status := .failed, completedAt := some now, leaseOwner := none, leaseExpiresAt := none })
    jobs

theorem mem_of_mem_expiredWorkflowJobs {now : Time} {locked : List JobId}
    {jobs : WorkflowJobTable} {item : WorkflowJob}
    (h : item ∈ expiredWorkflowJobs now locked jobs) : item ∈ jobs ∧ item.status = .leased := by
  have hsorted := List.mem_of_mem_take h
  rw [List.mem_insertionSort, List.mem_filter] at hsorted
  have hexpired := of_decide_eq_true hsorted.2
  exact ⟨hsorted.1, hexpired.1.1⟩

theorem get?_reapWorkflowJobs (now : Time) (expired : List WorkflowJob) {jobs : WorkflowJobTable}
    {k : JobId} :
    (reapWorkflowJobs now expired jobs).get? k = (jobs.get? k).map fun job =>
      if ∃ item ∈ expired, job.id = item.id then
        { job with
          status := .failed, completedAt := some now, leaseOwner := none, leaseExpiresAt := none }
      else job := by
  unfold reapWorkflowJobs
  rw [Table.get?_foldl_update_of_stable]
  exact fun _ _ _ => rfl

end Rhythm.Suites
