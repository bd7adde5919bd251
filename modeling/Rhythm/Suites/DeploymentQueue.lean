import Rhythm.Transition
import Rhythm.Suites.WorkflowJob

/-!
# Rhythm.Suites.DeploymentQueue

Queued deployment validations: a run row, its job, and the workers that load
the run, save their progress over it and decide it.  A worker holds the whole
run in memory and `UpdateDeploymentRun` writes it back unconditionally, while
`cancelQueuedDeployment` and the reaper of expired leases update only runs
that are not over.

The report, the progress counters and the evidence that a worker collects do
not decide which write wins and are left out; how the decision itself is
computed is the subject of the deployment modules.
-/

namespace Rhythm.Suites.Deployment

/-! ## Deployment runs -/

/-- The statuses of a deployment run. -/
inductive Status where
  | queued | running | cancelling | completed | failed | cancelled
  deriving DecidableEq

/-- `'COMPLETED','CANCELLED','FAILED'`: the run is over. -/
def Status.isTerminal : Status → Bool
  | .completed | .failed | .cancelled => true
  | _ => false

/-- A row of `deployment_validation_runs`; also the run a worker holds. -/
structure DeploymentRun where
  id : ValidationRunId
  status : Status
  gateDecision : GateDecision
  failureReason : String
  deriving DecidableEq

abbrev DeploymentRunTable := Table DeploymentRun DeploymentRun.id

/-- The run `StartDeployment` queues. -/
def queuedDeploymentRun (runID : ValidationRunId) : DeploymentRun where
  id := runID
  status := .queued
  gateDecision := .pending
  failureReason := ""

/-- `normalizeDeploymentCancellation`: how a cancelled run is read. -/
def normalizeDeploymentCancellation (run : DeploymentRun) : DeploymentRun :=
  if run.status = .cancelled then
    { run with
      gateDecision := if run.gateDecision = .pending then .block else run.gateDecision
      failureReason :=
        if run.failureReason.trimAscii.isEmpty then "Validation was cancelled before completion."
        else run.failureReason }
  else run

/-- `UpdateDeploymentRun`: the row becomes what the worker holds. -/
def updateDeploymentRun (run : DeploymentRun) (runs : DeploymentRunTable) : DeploymentRunTable :=
  runs.update (fun row => row.id = run.id) fun row =>
    { row with
      status := run.status
      gateDecision := run.gateDecision
      failureReason := run.failureReason }

def cancelDeploymentRun (row : DeploymentRun) : DeploymentRun :=
  { row with
    status := if row.status = .queued then .cancelled else .cancelling
    gateDecision := if row.status = .queued then .block else row.gateDecision
    failureReason :=
      if row.status = .queued then "Validation was cancelled before execution."
      else row.failureReason }

def reapDeploymentRun (row : DeploymentRun) : DeploymentRun :=
  { row with
    status := .failed
    gateDecision := .block
    failureReason :=
      "The deployment worker lease expired. Partial evidence was preserved and the " ++
        "workflow was not replayed." }

/-! ## Workers -/

/-- How `processDeployment` ends a run. -/
inductive Outcome where
  | decided (decision : GateDecision)
  | failed (reason : String)
  | cancelled
  deriving DecidableEq

/-- The in-memory run at the end of `processDeployment`. -/
def Outcome.apply (outcome : Outcome) (run : DeploymentRun) : DeploymentRun :=
  match outcome with
  | .decided decision => { run with status := .completed, gateDecision := decision }
  | .failed reason =>
    { run with status := .failed, gateDecision := .block, failureReason := reason }
  | .cancelled =>
    { run with
      status := .cancelled
      gateDecision := .block
      failureReason := "Validation was cancelled before completion." }

/-- Where a call of `processDeploymentJob` stands, with the run it holds. -/
inductive Stage where
  /-- Claimed, the run not loaded yet. -/
  | claimed
  | loaded (run : DeploymentRun)
  /-- `RUNNING` in memory; the first save has not committed. -/
  | starting (run : DeploymentRun)
  | running (run : DeploymentRun)
  /-- The outcome is in memory. -/
  | finished (run : DeploymentRun)
  /-- `processDeployment` has returned. -/
  | returned
  deriving DecidableEq

/-- The run that `saveDeployment` writes at this stage. -/
def Stage.saves : Stage → Option DeploymentRun
  | .starting run | .running run | .finished run => some run
  | _ => none

def Stage.afterSave : Stage → Stage
  | .starting run => .running run
  | stage => stage

/-- `processDeployment` returns once its run is finished, or when its first save
failed. -/
def Stage.mayReturn : Stage → Bool
  | .starting _ | .finished _ => true
  | _ => false

/-- `completeDeploymentJob` follows the return, or a load that failed. -/
def Stage.mayComplete : Stage → Bool
  | .claimed | .returned => true
  | _ => false

/-- One call of `processDeploymentJob` past its claim. -/
structure Worker where
  id : ExecutionId
  jobId : JobId
  runId : ValidationRunId
  workerID : WorkerId
  stage : Stage
  cancelRequested : Bool
  deriving DecidableEq

/-! ## The system -/

/-- The tables, the clock and the workers. -/
structure State where
  now : Time
  jobs : WorkflowJobTable
  runs : DeploymentRunTable
  workers : Table Worker Worker.id

def initial (now : Time) : State where
  now := now
  jobs := .empty
  runs := .empty
  workers := .empty

/-- One transaction, or one move of a worker. -/
inductive Action where
  | tick (elapsed : Nat)
  | createQueuedDeploymentRun (jobID : JobId) (runID : ValidationRunId)
  | claimDeploymentJob (workerID : WorkerId) (jobID : JobId) (executionID : ExecutionId)
  /-- The claimed run is loaded. -/
  | getDeploymentRun (executionID : ExecutionId)
  /-- `processDeployment` starts: the run is `RUNNING` in memory. -/
  | start (executionID : ExecutionId)
  /-- The worker reaches an outcome, in memory. -/
  | finish (executionID : ExecutionId) (outcome : Outcome)
  /-- A save of the in-memory run that commits. -/
  | saveDeployment (executionID : ExecutionId)
  | return (executionID : ExecutionId)
  | watchDeploymentJob (executionID : ExecutionId)
  | completeDeploymentJob (executionID : ExecutionId)
  /-- The worker process is lost, or shut down. -/
  | crash (executionID : ExecutionId)
  | cancelQueuedDeployment (runID : ValidationRunId)
  | reapExpiredDeploymentJobs (locked : List JobId)
  deriving DecidableEq

def State.setWorker (s : State) (executionID : ExecutionId) (f : Worker → Worker)
    (hf : Table.KeepsKey Worker.id f := by exact ⟨fun _ => rfl⟩) : State :=
  { s with workers := s.workers.update (fun w => w.id = executionID) f hf }

def State.stage? (s : State) (executionID : ExecutionId) : Option Stage :=
  (s.workers.get? executionID).map Worker.stage

/-- **One step of the deployment queue.** -/
def step (s : State) : Action → Option State
  | .tick elapsed => some { s with now := s.now + elapsed }
  | .createQueuedDeploymentRun jobID runID =>
    match s.runs.insert (queuedDeploymentRun runID),
        s.jobs.insert (queuedWorkflowJob jobID runID) with
    | some runs, some jobs => some { s with runs, jobs }
    | _, _ => none
  | .claimDeploymentJob workerID jobID executionID =>
    match claimWorkflowJob s.now workerID jobID s.jobs with
    | none => none
    | some (runID, jobs) =>
      (s.workers.insert ⟨executionID, jobID, runID, workerID, .claimed, false⟩).map fun workers =>
        { s with jobs, workers }
  | .getDeploymentRun executionID =>
    match s.workers.get? executionID with
    | none => none
    | some worker =>
      match worker.stage, s.runs.get? worker.runId with
      | .claimed, some row => some (s.setWorker executionID fun w =>
          { w with stage := .loaded (normalizeDeploymentCancellation row) })
      | _, _ => none
  | .start executionID =>
    match s.stage? executionID with
    | some (.loaded run) => some (s.setWorker executionID fun w =>
        { w with stage := .starting { run with status := .running } })
    | _ => none
  | .finish executionID outcome =>
    match s.stage? executionID with
    | some (.running run) => some (s.setWorker executionID fun w =>
        { w with stage := .finished (outcome.apply run) })
    | _ => none
  | .saveDeployment executionID =>
    match s.workers.get? executionID with
    | none => none
    | some worker =>
      match worker.stage.saves with
      | none => none
      | some run =>
        let saved := s.setWorker executionID fun w => { w with stage := w.stage.afterSave }
        some { saved with runs := updateDeploymentRun run s.runs }
  | .return executionID =>
    match s.stage? executionID with
    | none => none
    | some stage =>
      if stage.mayReturn = true then
        some (s.setWorker executionID fun w => { w with stage := .returned })
      else none
  | .watchDeploymentJob executionID =>
    match s.workers.get? executionID with
    | none => none
    | some worker =>
      let requested := workflowCancelRequested worker.workerID worker.jobId s.jobs
      let watched := s.setWorker executionID fun w =>
        { w with cancelRequested := w.cancelRequested || requested }
      some { watched with jobs := renewWorkflowLease s.now worker.workerID worker.jobId s.jobs }
  | .completeDeploymentJob executionID =>
    match s.workers.get? executionID with
    | none => none
    | some worker =>
      if worker.stage.mayComplete = true then
        some { s with
          jobs := completeWorkflowJob s.now worker.workerID worker.jobId
            (worker.stage = .claimed) worker.cancelRequested s.jobs
          workers := s.workers.deleteWhere fun w => w.id = executionID }
      else none
  | .crash executionID =>
    some { s with workers := s.workers.deleteWhere fun w => w.id = executionID }
  | .cancelQueuedDeployment runID =>
    if s.runs.any (fun row => row.id = runID ∧ row.status.isTerminal = false) = true then
      some { s with
        runs := s.runs.update (fun row => row.id = runID ∧ row.status.isTerminal = false)
          cancelDeploymentRun
        jobs := cancelWorkflowJobs s.now runID s.jobs }
    else none
  | .reapExpiredDeploymentJobs locked =>
    let expired := expiredWorkflowJobs s.now locked s.jobs
    some { s with
      jobs := reapWorkflowJobs s.now expired s.jobs
      runs := expired.foldl (fun runs item =>
        runs.update (fun row => row.id = item.runId ∧ row.status.isTerminal = false)
          reapDeploymentRun) s.runs }

/-! ## Final verdicts -/

/-- No run that is over in `s` has another status or gate decision in `s'`. -/
def VerdictKept (s s' : State) : Prop :=
  ∀ row ∈ s.runs, row.status.isTerminal = true →
    (s'.runs.get? row.id).map (fun row' => (row'.status, row'.gateDecision)) =
      some (row.status, row.gateDecision)

instance (s s' : State) : Decidable (VerdictKept s s') :=
  inferInstanceAs (Decidable (∀ row ∈ s.runs, _))

/-- A save finds its run not over, or over with the verdict it writes. -/
def SaveSparesVerdict (s : State) (a : Action) : Prop :=
  match a with
  | .saveDeployment executionID => ∀ run, (s.stage? executionID).bind Stage.saves = some run →
      ∀ row ∈ s.runs, row.status.isTerminal = true → row.id = run.id →
      (run.status, run.gateDecision) = (row.status, row.gateDecision)
  | _ => True

section Step

variable {s s' : State} {a : Action}

def runEffect (s : State) (a : Action) (row : DeploymentRun) : DeploymentRun :=
  match a with
  | .saveDeployment executionID =>
    match (s.stage? executionID).bind Stage.saves with
    | some run =>
      if row.id = run.id then
        { row with
          status := run.status
          gateDecision := run.gateDecision
          failureReason := run.failureReason }
      else row
    | none => row
  | .cancelQueuedDeployment runID =>
    if row.id = runID ∧ row.status.isTerminal = false then cancelDeploymentRun row else row
  | .reapExpiredDeploymentJobs locked =>
    if ∃ item ∈ expiredWorkflowJobs s.now locked s.jobs,
        row.id = item.runId ∧ row.status.isTerminal = false then
      reapDeploymentRun row
    else row
  | _ => row

theorem get?_step_runs (h : step s a = some s') {k : ValidationRunId} {row : DeploymentRun}
    (hrow : s.runs.get? k = some row) : s'.runs.get? k = some (runEffect s a row) := by
  cases a with
  | createQueuedDeploymentRun jobID runID =>
    simp only [step] at h
    split at h
    · rename_i runs jobs hruns hjobs
      cases h
      rw [Table.get?_insert hruns, hrow, Option.some_or]
      rfl
    · contradiction
  | claimDeploymentJob workerID jobID executionID =>
    simp only [step] at h
    split at h
    · contradiction
    · simp only [Option.map_eq_some_iff] at h
      obtain ⟨workers, -, rfl⟩ := h
      exact hrow
  | saveDeployment executionID =>
    grind [step, updateDeploymentRun, Table.get?_update, runEffect, State.stage?]
  | cancelQueuedDeployment runID =>
    simp only [step] at h
    split at h
    · cases h
      simp only [Table.get?_update, hrow, Option.map_some, runEffect]
    · contradiction
  | reapExpiredDeploymentJobs locked =>
    cases h
    have hdone : ∀ (item : WorkflowJob) row,
        ¬ ((reapDeploymentRun row).id = item.runId ∧
          (reapDeploymentRun row).status.isTerminal = false) := fun _ _ h => by
      simp [reapDeploymentRun, Status.isTerminal] at h
    rw [Table.get?_foldl_update hdone, hrow]
    rfl
  | tick | getDeploymentRun | start | finish | «return» | watchDeploymentJob
  | completeDeploymentJob | crash =>
    simp only [step] at h
    grind [State.setWorker, runEffect]

theorem verdict_runEffect (hsave : ∀ executionID, a ≠ .saveDeployment executionID)
    {row : DeploymentRun} (hterminal : row.status.isTerminal = true) : runEffect s a row = row := by
  cases a with
  | saveDeployment executionID => exact absurd rfl (hsave executionID)
  | cancelQueuedDeployment runID | reapExpiredDeploymentJobs locked => simp [runEffect, hterminal]
  | _ => rfl

/-- One step keeps every verdict exactly when it is no save over a run that is
over with another verdict. -/
theorem verdictKept_iff (h : step s a = some s') : VerdictKept s s' ↔ SaveSparesVerdict s a := by
  have heffect : VerdictKept s s' ↔ ∀ row ∈ s.runs, row.status.isTerminal = true →
      ((runEffect s a row).status, (runEffect s a row).gateDecision) =
        (row.status, row.gateDecision) := by
    refine forall₂_congr fun row hrow => forall_congr' fun _ => ?_
    rw [get?_step_runs h (Table.get?_of_mem hrow), Option.map_some, Option.some.injEq]
  rw [heffect]
  cases a with
  | saveDeployment executionID =>
    simp only [SaveSparesVerdict, runEffect]
    cases hsaves : (s.stage? executionID).bind Stage.saves with
    | none => simp
    | some run => grind
  | _ =>
    exact iff_of_true (fun row _ hterminal => by rw [verdict_runEffect (by simp) hterminal]) trivial

end Step

end Rhythm.Suites.Deployment
