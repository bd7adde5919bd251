import Rhythm.Transition
import Rhythm.Suites.WorkflowJob

/-!
# Rhythm.Suites.SuiteQueue

Queued validation suite runs.  The worker computes the verdict from the check
results and writes it with the upsert `SaveRun`, which takes whatever status
the row has; the claim, the cancellation, `failSuiteRun` and the reaper update
only runs in the statuses they name.
-/

namespace Rhythm.Suites.SuiteQueue

/-! ## Suite runs -/

/-- The statuses of a suite run. -/
inductive Status where
  | queued | running | cancelling | passed | passedWithWarnings | failed | timedOut | cancelled
  deriving DecidableEq

/-- The run is over: not `'QUEUED','RUNNING','CANCELLING'`. -/
def Status.isTerminal : Status → Bool
  | .queued | .running | .cancelling => false
  | _ => true

/-- What the gate reads of a check result. -/
structure CheckResult where
  kind : String
  required : Bool
  status : String
  failureCategory : String
  failureReason : String
  deriving DecidableEq

/-- A row of `validation_suite_runs`; also the run a worker holds. -/
structure SuiteRun where
  id : ValidationRunId
  status : Status
  gateDecision : GateDecision
  results : List CheckResult
  deriving DecidableEq

abbrev SuiteRunTable := Table SuiteRun SuiteRun.id

/-- The run `QueueRunWithInput` queues. -/
def queuedSuiteRun (runID : ValidationRunId) : SuiteRun where
  id := runID
  status := .queued
  gateDecision := .pending
  results := []

/-- How the context of a suite run ended early. -/
inductive ContextEnd where
  | deadlineExceeded
  | canceled
  deriving DecidableEq

/-- The verdict at the end of `executeSuiteRun`. -/
def suiteVerdict (contextEnd : Option ContextEnd) (results : List CheckResult) :
    Status × GateDecision :=
  let requiredFailure := results.any fun result => result.status ≠ "SUCCESS" ∧ result.required
  let optionalFailure := results.any fun result => result.status ≠ "SUCCESS" ∧ ¬ result.required
  match contextEnd with
  | some .deadlineExceeded => (.timedOut, .block)
  | some .canceled => (.cancelled, .block)
  | none =>
    if requiredFailure then (.failed, .block)
    else if optionalFailure then (.passedWithWarnings, .allowWithWarnings)
    else (.passed, .allow)

/-- `executeSuiteRun` on the loaded run. -/
def executeSuiteRun (contextEnd : Option ContextEnd) (results : List CheckResult)
    (run : SuiteRun) : SuiteRun :=
  { run with
    status := (suiteVerdict contextEnd results).1
    gateDecision := (suiteVerdict contextEnd results).2
    results := results }

/-- `SaveRun`: the row becomes what the worker holds. -/
def saveRun (run : SuiteRun) (runs : SuiteRunTable) : SuiteRunTable :=
  match runs.insert run with
  | some runs' => runs'
  | none => runs.update (fun row => row.id = run.id) fun row =>
      { row with status := run.status, gateDecision := run.gateDecision, results := run.results }

/-- The run row that `claimSuiteJob` leaves. -/
def startSuiteRun (row : SuiteRun) : SuiteRun := { row with status := .running }

/-- The run row that `failSuiteRun` and the reaper leave. -/
def failSuiteRow (failureReason : String) (row : SuiteRun) : SuiteRun :=
  { row with
    status := .failed
    gateDecision := .block
    results := [⟨"SYSTEM", true, "FAILED", "SUITE_WORKER_LOST", failureReason⟩] }

def suiteLeaseExpiredReason : String :=
  "The suite worker lease expired. Partial evidence was preserved and the workflow was " ++
    "not replayed."

/-- The run row that `RequestCancel` leaves. -/
def cancelSuiteRun (row : SuiteRun) : SuiteRun :=
  { row with
    status := if row.status = .queued then .cancelled else .cancelling
    gateDecision := if row.status = .queued then .block else row.gateDecision }

/-! ## Workers -/

/-- Where a call of `processSuiteJob` stands, with the run it holds. -/
inductive Stage where
  | claimed
  | loaded (run : SuiteRun)
  /-- The verdict is in memory. -/
  | finished (run : SuiteRun)
  /-- A load or the save failed; `failSuiteRun` is next. -/
  | failing (reason : String)
  /-- About to complete the job. -/
  | returned (runErr : Bool)
  deriving DecidableEq

/-- One call of `processSuiteJob` past its claim. -/
structure Worker where
  id : ExecutionId
  jobId : JobId
  runId : ValidationRunId
  workerID : WorkerId
  stage : Stage
  cancelRequested : Bool
  deriving DecidableEq

/-! ## The system -/

/-- The tables, the clock and the workers. -/
structure State where
  now : Time
  jobs : WorkflowJobTable
  runs : SuiteRunTable
  workers : Table Worker Worker.id

def initial (now : Time) : State where
  now := now
  jobs := .empty
  runs := .empty
  workers := .empty

/-- One transaction, or one move of a worker. -/
inductive Action where
  | tick (elapsed : Nat)
  | createQueuedSuiteRun (jobID : JobId) (runID : ValidationRunId)
  | claimSuiteJob (workerID : WorkerId) (jobID : JobId) (executionID : ExecutionId)
  /-- The claimed run is loaded. -/
  | getRun (executionID : ExecutionId)
  /-- The run or its suite cannot be loaded. -/
  | loadFailed (executionID : ExecutionId) (reason : String)
  /-- The suite is executed, in memory. -/
  | executeSuiteRun (executionID : ExecutionId) (contextEnd : Option ContextEnd)
      (results : List CheckResult)
  /-- A save of the verdict that commits. -/
  | saveRun (executionID : ExecutionId)
  /-- A save of the verdict that fails. -/
  | saveFailed (executionID : ExecutionId)
  /-- `failSuiteRun`, which may itself fail. -/
  | failSuiteRun (executionID : ExecutionId) (commits : Bool)
  | watchSuiteJob (executionID : ExecutionId)
  | completeSuiteJob (executionID : ExecutionId)
  /-- The worker process is lost, or shut down. -/
  | crash (executionID : ExecutionId)
  | requestCancel (runID : ValidationRunId)
  | reapExpiredSuiteJobs (locked : List JobId)
  deriving DecidableEq

def State.setWorker (s : State) (executionID : ExecutionId) (f : Worker → Worker)
    (hf : Table.KeepsKey Worker.id f := by exact ⟨fun _ => rfl⟩) : State :=
  { s with workers := s.workers.update (fun w => w.id = executionID) f hf }

def State.stage? (s : State) (executionID : ExecutionId) : Option Stage :=
  (s.workers.get? executionID).map Worker.stage

/-- `RequestCancel` reaches a run that has these statuses. -/
def Status.isCancellable : Status → Bool
  | .queued | .running => true
  | _ => false

/-- **One step of the suite queue.** -/
def step (s : State) : Action → Option State
  | .tick elapsed => some { s with now := s.now + elapsed }
  | .createQueuedSuiteRun jobID runID =>
    match s.runs.insert (queuedSuiteRun runID), s.jobs.insert (queuedWorkflowJob jobID runID) with
    | some runs, some jobs => some { s with runs, jobs }
    | _, _ => none
  | .claimSuiteJob workerID jobID executionID =>
    match claimWorkflowJob s.now workerID jobID s.jobs with
    | none => none
    | some (runID, jobs) =>
      (s.workers.insert ⟨executionID, jobID, runID, workerID, .claimed, false⟩).map fun workers =>
        { s with
          jobs, workers
          runs := s.runs.update (fun row => row.id = runID ∧ row.status = .queued) startSuiteRun }
  | .getRun executionID =>
    match s.workers.get? executionID with
    | none => none
    | some worker =>
      match worker.stage, s.runs.get? worker.runId with
      | .claimed, some row =>
        some (s.setWorker executionID fun w => { w with stage := .loaded row })
      | _, _ => none
  | .loadFailed executionID reason =>
    match s.stage? executionID with
    | some .claimed => some (s.setWorker executionID fun w => { w with stage := .failing reason })
    | _ => none
  | .executeSuiteRun executionID contextEnd results =>
    match s.stage? executionID with
    | some (.loaded run) => some (s.setWorker executionID fun w =>
        { w with stage := .finished (executeSuiteRun contextEnd results run) })
    | _ => none
  | .saveRun executionID =>
    match s.stage? executionID with
    | some (.finished run) =>
      let saved := s.setWorker executionID fun w => { w with stage := .returned false }
      some { saved with runs := saveRun run s.runs }
    | _ => none
  | .saveFailed executionID =>
    match s.stage? executionID with
    | some (.finished _) => some (s.setWorker executionID fun w =>
        { w with stage := .failing "Validation suite results could not be persisted." })
    | _ => none
  | .failSuiteRun executionID commits =>
    match s.workers.get? executionID with
    | none => none
    | some worker =>
      match worker.stage with
      | .failing reason =>
        let failed := s.setWorker executionID fun w => { w with stage := .returned true }
        if commits then
          some { failed with
            runs := s.runs.update
              (fun row => row.id = worker.runId ∧ row.status.isTerminal = false)
              (failSuiteRow reason) }
        else some failed
      | _ => none
  | .watchSuiteJob executionID =>
    match s.workers.get? executionID with
    | none => none
    | some worker =>
      let requested := workflowCancelRequested worker.workerID worker.jobId s.jobs
      let watched := s.setWorker executionID fun w =>
        { w with cancelRequested := w.cancelRequested || requested }
      some { watched with jobs := renewWorkflowLease s.now worker.workerID worker.jobId s.jobs }
  | .completeSuiteJob executionID =>
    match s.workers.get? executionID with
    | none => none
    | some worker =>
      match worker.stage with
      | .returned runErr =>
        some { s with
          jobs := completeWorkflowJob s.now worker.workerID worker.jobId runErr
            worker.cancelRequested s.jobs
          workers := s.workers.deleteWhere fun w => w.id = executionID }
      | _ => none
  | .crash executionID =>
    some { s with workers := s.workers.deleteWhere fun w => w.id = executionID }
  | .requestCancel runID =>
    if s.runs.any (fun row => row.id = runID ∧ row.status.isCancellable = true) = true then
      some { s with
        runs := s.runs.update (fun row => row.id = runID ∧ row.status.isCancellable = true)
          cancelSuiteRun
        jobs := cancelWorkflowJobs s.now runID s.jobs }
    else none
  | .reapExpiredSuiteJobs locked =>
    let expired := expiredWorkflowJobs s.now locked s.jobs
    some { s with
      jobs := reapWorkflowJobs s.now expired s.jobs
      runs := expired.foldl (fun runs item =>
        runs.update (fun row => row.id = item.runId ∧ row.status.isTerminal = false)
          (failSuiteRow suiteLeaseExpiredReason)) s.runs }

/-! ## Final verdicts -/

/-- No run that is over in `s` has another status or gate decision in `s'`. -/
def VerdictKept (s s' : State) : Prop :=
  ∀ row ∈ s.runs, row.status.isTerminal = true →
    (s'.runs.get? row.id).map (fun row' => (row'.status, row'.gateDecision)) =
      some (row.status, row.gateDecision)

/-- A save finds its run not over, or over with the verdict it writes. -/
def SaveSparesVerdict (s : State) (a : Action) : Prop :=
  match a with
  | .saveRun executionID => ∀ run, s.stage? executionID = some (.finished run) →
      ∀ row ∈ s.runs, row.status.isTerminal = true → row.id = run.id →
      (run.status, run.gateDecision) = (row.status, row.gateDecision)
  | _ => True

section Step

variable {s s' : State} {a : Action} {row : SuiteRun}

theorem not_isTerminal_of_isCancellable {status : Status} (h : status.isCancellable = true) :
    status.isTerminal = false := by
  cases status <;> simp_all [Status.isCancellable, Status.isTerminal]

theorem get?_saveRun {run : SuiteRun} {runs : SuiteRunTable} (hrow : row ∈ runs) :
    (saveRun run runs).get? row.id = some
      (if row.id = run.id then
        { row with status := run.status, gateDecision := run.gateDecision, results := run.results }
      else row) := by
  unfold saveRun
  cases hinsert : runs.insert run with
  | some runs' =>
    have hne : row.id ≠ run.id :=
      Table.get?_eq_none_iff.mp (Table.get?_of_insert_eq_none hinsert) row hrow
    rw [Table.get?_insert hinsert, Table.get?_of_mem hrow, Option.some_or, if_neg hne]
  | none => simp only [Table.get?_update, Table.get?_of_mem hrow, Option.map_some]

theorem get?_step_of_isTerminal (h : step s a = some s')
    (hsave : ∀ executionID, a ≠ .saveRun executionID) (hrow : row ∈ s.runs)
    (hterminal : row.status.isTerminal = true) : s'.runs.get? row.id = some row := by
  have hget := Table.get?_of_mem hrow
  have hqueued : row.status ≠ .queued := fun hq => by simp [hq, Status.isTerminal] at hterminal
  cases a with
  | saveRun executionID => exact absurd rfl (hsave executionID)
  | createQueuedSuiteRun jobID runID =>
    simp only [step] at h
    split at h
    · rename_i runs jobs hruns hjobs
      cases h
      rw [Table.get?_insert hruns, hget, Option.some_or]
    · contradiction
  | claimSuiteJob workerID jobID executionID =>
    grind [step, Option.map_eq_some_iff, Table.get?_update]
  | failSuiteRun executionID commits =>
    simp only [step] at h
    split at h
    · contradiction
    · split at h
      · split at h
        · cases h
          simp only [Table.get?_update, hget, Option.map_some, hterminal, Bool.true_eq_false,
            and_false, if_false]
        · cases h
          exact hget
      · contradiction
  | requestCancel runID =>
    grind [not_isTerminal_of_isCancellable, step, Table.get?_update]
  | reapExpiredSuiteJobs locked =>
    cases h
    have hdone : ∀ (item : WorkflowJob) row,
        ¬ ((failSuiteRow suiteLeaseExpiredReason row).id = item.runId ∧
          (failSuiteRow suiteLeaseExpiredReason row).status.isTerminal = false) := fun _ _ h => by
      simp [failSuiteRow, Status.isTerminal] at h
    rw [Table.get?_foldl_update hdone, hget]
    simp [hterminal]
  | tick | getRun | loadFailed | executeSuiteRun | saveFailed | watchSuiteJob
  | completeSuiteJob | crash =>
    simp only [step] at h
    grind [State.setWorker]

/-- One step keeps every verdict exactly when it is no save over a run that is
over with another verdict. -/
theorem verdictKept_iff (h : step s a = some s') : VerdictKept s s' ↔ SaveSparesVerdict s a := by
  cases a with
  | saveRun executionID =>
    simp only [step] at h
    split at h
    · rename_i run hstage
      cases h
      simp only [SaveSparesVerdict, hstage, Option.some.injEq, Stage.finished.injEq, forall_eq']
      refine forall₂_congr fun row hrow => forall_congr' fun _ => ?_
      rw [get?_saveRun hrow, Option.map_some, Option.some.injEq]
      by_cases hid : row.id = run.id <;> simp [hid]
    · contradiction
  | _ =>
    refine iff_of_true (fun row hrow hterminal => ?_) trivial
    rw [get?_step_of_isTerminal h (by simp) hrow hterminal]
    rfl

end Step

end Rhythm.Suites.SuiteQueue
