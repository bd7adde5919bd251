import Rhythm.Runs.Domain

/-!
# Rhythm.Storage.RunRepository

The three transactions of the run repository that move a run and its job:
`save` (a worker's upsert of the run it holds), `enqueue` (a queued run and
its job, or nothing) and `requestCancel`.  Each is one atomic statement list
over the two tables; `get?_save_runs`, `get?_requestCancel_runs` and
`get?_requestCancel_jobs` say what it leaves under each primary key.

The step, attempt and event rows that `save` also writes, and the outbox row
of `enqueue`, are not read by any of these transactions and are left out.
-/

namespace Rhythm

open Runs ExecutionJobs

/-- The two tables that a queued execution lives in. -/
structure Database where
  jobs : JobTable
  runs : RunTable

namespace RunRepository

/-! ## Saving a run -/

/-- `UPDATE monitor_runs SET terminal_processed_at=NOW() … IS NULL`, made for a
terminal run that is not a draft run. -/
def claimTerminalProcessing (now : Time) (run row : MonitorRun) : MonitorRun :=
  { row with
    terminalProcessedAt :=
      if run.triggerType ≠ .manualDraft ∧ run.status.isTerminal = true then
        row.terminalProcessedAt.or (some now)
      else row.terminalProcessedAt }

/-- The columns of `ON CONFLICT(id) DO UPDATE SET …`: whatever the worker holds
replaces what the row says, its status included. -/
def overwrite (run row : MonitorRun) : MonitorRun :=
  { row with
    status := run.status
    failureCategory := run.failureCategory
    failureReason := run.failureReason
    failedStepId := run.failedStepId
    durationMs := run.durationMs
    startedAt := run.startedAt
    endedAt := run.endedAt }

/-- The row of a run that `save` stores for the first time. -/
def insertedRow (now : Time) (run : MonitorRun) : MonitorRun :=
  claimTerminalProcessing now run
    { run with cancelRequestedAt := none, terminalProcessedAt := none }

/-- The row that `save` leaves for a run whose row was `row`. -/
def savedRow (now : Time) (run row : MonitorRun) : MonitorRun :=
  claimTerminalProcessing now run (overwrite run row)

/-- `save`: insert the run or overwrite its row, then claim the processing of a
terminal run. -/
def save (now : Time) (run : MonitorRun) (runs : RunTable) : RunTable :=
  match runs.insert (insertedRow now run) with
  | some runs' => runs'
  | none => runs.update (fun row => row.id = run.id) (savedRow now run)

@[simp] theorem savedRow_status (now : Time) (run row : MonitorRun) :
    (savedRow now run row).status = run.status := rfl

variable {now : Time}

/-- **`save` on a stored run**: its own row is overwritten, every other row
stays. -/
theorem get?_save {run row : MonitorRun} {runs : RunTable}
    (hrow : runs.get? run.id = some row) (k : RunId) :
    (save now run runs).get? k =
      if k = run.id then some (savedRow now run row) else runs.get? k := by
  have hnone : runs.insert (insertedRow now run) = none := Table.insert_eq_none_iff.mpr ⟨row, hrow⟩
  simp only [save, hnone, Table.get?_update_key]
  by_cases hk : k = run.id
  · rw [if_pos hk, if_pos hk, hk, hrow, Option.map_some]
  · rw [if_neg hk, if_neg hk]

/-- The row that `save` leaves for the run, whatever was stored. -/
def storedRow (now : Time) (run : MonitorRun) : Option MonitorRun → MonitorRun
  | some row => savedRow now run row
  | none => insertedRow now run

/-- **`save`, whatever was stored.** -/
theorem get?_save_run {run : MonitorRun} {runs : RunTable} (k : RunId) :
    (save now run runs).get? k =
      if k = run.id then some (storedRow now run (runs.get? run.id)) else runs.get? k := by
  cases hrow : runs.get? run.id with
  | some row => exact get?_save hrow k
  | none =>
    cases hinsert : runs.insert (insertedRow now run) with
    | none =>
      obtain ⟨row, hmem⟩ := Table.insert_eq_none_iff.mp hinsert
      have hid : (insertedRow now run).id = run.id := rfl
      rw [hid, hrow] at hmem
      contradiction
    | some runs' =>
      have hsave : save now run runs = runs' := by rw [save, hinsert]
      rw [hsave, Table.get?_insert hinsert]
      by_cases hk : k = run.id
      · subst hk
        rw [hrow, if_pos rfl]
        exact if_pos rfl
      · rw [if_neg hk, if_neg fun h => hk h.symm, Option.or_none]

/-! ## Enqueueing -/

/-- What makes `enqueue` roll back. -/
inductive EnqueueError where
  | insertQueuedMonitorRun
  | alreadyQueued
  | insertExecutionJob
  deriving DecidableEq

/-- The run `start` builds before it is queued. -/
def queuedRun (runID : RunId) (request : QueueRequest) : MonitorRun where
  id := runID
  monitorId := request.monitorId
  revisionId := request.revisionId
  status := .queued
  triggerType := request.runTriggerType
  failureCategory := ""
  failureReason := ""
  failedStepId := ""
  durationMs := 0
  startedAt := none
  endedAt := none
  createdAt := request.queuedAt
  cancelRequestedAt := none
  terminalProcessedAt := none

/-- The job row of a request: the manual queue, or the scheduled one for a
`SCHEDULED` trigger. -/
def queuedJob (jobID : JobId) (runID : RunId) (request : QueueRequest) : ExecutionJob where
  id := jobID
  runId := runID
  queueClass := if request.triggerType = some .scheduled then .scheduled else .manual
  priority := if request.triggerType = some .scheduled then 10 else 200
  payload := request
  deduplicationKey := request.deduplication
  status := .queued
  availableAt := request.queuedAt
  attemptCount := 0
  leaseOwner := none
  leaseExpiresAt := none
  cancelRequestedAt := none
  startedAt := none
  completedAt := none
  createdAt := request.queuedAt

/-- `Enqueue`: the run and its job in one transaction.  A run id that is taken,
a deduplication key already queued, or a second job for a run
(`execution_jobs_run_idx`) rolls everything back. -/
def enqueue (jobID : JobId) (run : MonitorRun) (request : QueueRequest) (db : Database) :
    Except EnqueueError Database :=
  match db.runs.insert run with
  | none => .error .insertQueuedMonitorRun
  | some runs =>
    if request.deduplication.isSome = true ∧
        db.jobs.any (fun job => job.deduplicationKey = request.deduplication) = true then
      .error .alreadyQueued
    else if db.jobs.any (fun job => job.runId = run.id) = true then
      .error .insertExecutionJob
    else
      match db.jobs.insert (queuedJob jobID run.id request) with
      | none => .error .insertExecutionJob
      | some jobs => .ok { jobs, runs }

/-- Everything a successful `enqueue` says: both rows were new, no job had the
run, and both were inserted. -/
theorem enqueue_ok {jobID : JobId} {run : MonitorRun} {request : QueueRequest}
    {db db' : Database} (h : enqueue jobID run request db = .ok db') :
    db.runs.insert run = some db'.runs ∧
      db.jobs.insert (queuedJob jobID run.id request) = some db'.jobs ∧
      ∀ job ∈ db.jobs, job.runId ≠ run.id := by
  unfold enqueue at h
  cases hruns : db.runs.insert run with
  | none =>
    rw [hruns] at h
    contradiction
  | some runs =>
    rw [hruns] at h
    simp only at h
    split at h
    · contradiction
    · split at h
      · contradiction
      · rename_i hfree
        cases hjobs : db.jobs.insert (queuedJob jobID run.id request) with
        | none =>
          rw [hjobs] at h
          contradiction
        | some jobs =>
          rw [hjobs] at h
          cases h
          refine ⟨rfl, rfl, fun job hjob heq => hfree ?_⟩
          exact Table.any_eq_true.mpr ⟨job, hjob, heq⟩

/-! ## Cancelling -/

/-- The run row `RequestCancel` leaves: a run that has not started is cancelled
on the spot, any other only carries the request. -/
def cancelRun (now : Time) (row : MonitorRun) : MonitorRun :=
  { row with
    cancelRequestedAt := some now
    status := if row.status.isPending then .cancelled else row.status
    endedAt := if row.status.isPending then some now else row.endedAt
    failureCategory := if row.status.isPending then "RUN_CANCELLED" else row.failureCategory
    failureReason :=
      if row.status.isPending then "Execution was cancelled before it started."
      else row.failureReason }

/-- The job row `RequestCancel` leaves. -/
def cancelJob (now : Time) (job : ExecutionJob) : ExecutionJob :=
  { job with
    cancelRequestedAt := some now
    status := if job.status = .queued then .cancelled else job.status
    completedAt := if job.status = .queued then some now else job.completedAt }

/-- `RequestCancel`: whether the cancellation was accepted, and the tables. -/
def requestCancel (now : Time) (runID : RunId) (db : Database) : Bool × Database :=
  if db.runs.any (fun row => row.id = runID ∧ row.status.isTerminal = false) = true then
    (true,
      { runs := db.runs.update (fun row => row.id = runID ∧ row.status.isTerminal = false)
          (cancelRun now)
        jobs := db.jobs.update
          (fun job => job.runId = runID ∧ (job.status = .queued ∨ job.status = .leased))
          (cancelJob now) })
  else (false, db)

variable {runID : RunId} {db : Database}

theorem requestCancel_fst_iff :
    (requestCancel now runID db).1 = true ↔
      ∃ row, db.runs.get? runID = some row ∧ row.status.isTerminal = false := by
  have hany : db.runs.any (fun row => row.id = runID ∧ row.status.isTerminal = false) = true ↔
      ∃ row, db.runs.get? runID = some row ∧ row.status.isTerminal = false := by
    rw [Table.any_eq_true]
    constructor
    · intro ⟨row, hmem, hid, hstatus⟩
      exact ⟨row, Table.get?_eq_some_iff.mpr ⟨hmem, hid⟩, hstatus⟩
    · intro ⟨row, hget, hstatus⟩
      obtain ⟨hmem, hid⟩ := Table.get?_eq_some_iff.mp hget
      exact ⟨row, hmem, hid, hstatus⟩
  unfold requestCancel
  split
  · rename_i h
    simpa using hany.mp h
  · rename_i h
    rw [hany] at h
    simpa using h

theorem requestCancel_of_refused
    (h : (requestCancel now runID db).1 = false) : (requestCancel now runID db).2 = db := by
  unfold requestCancel at h ⊢
  split
  · simp_all
  · rfl

theorem get?_requestCancel_runs (k : RunId) :
    (requestCancel now runID db).2.runs.get? k = (db.runs.get? k).map fun row =>
      if row.id = runID ∧ row.status.isTerminal = false then cancelRun now row else row := by
  unfold requestCancel
  split
  · rw [Table.get?_update]
  · rename_i hany
    cases hget : db.runs.get? k with
    | none => rfl
    | some row =>
      have hrow : ¬ (row.id = runID ∧ row.status.isTerminal = false) := fun h =>
        hany (Table.any_eq_true.mpr ⟨row, Table.mem_of_get? hget, h⟩)
      rw [Option.map_some, if_neg hrow]

theorem get?_requestCancel_jobs (h : (requestCancel now runID db).1 = true) (k : JobId) :
    (requestCancel now runID db).2.jobs.get? k = (db.jobs.get? k).map fun job =>
      if job.runId = runID ∧ (job.status = .queued ∨ job.status = .leased) then
        cancelJob now job else job := by
  unfold requestCancel at h ⊢
  split
  · rw [Table.get?_update]
  · simp_all

end RunRepository

end Rhythm
