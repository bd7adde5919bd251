import Rhythm.Suites.DeploymentQueue

/-!
# Rhythm.Suites.DeploymentEffects

What a step of the deployment queue does, row by row: `jobEffect` and
`workerEffect` beside `runEffect`, what a step adds to each table, and the rows
of the next state in terms of these.  Whatever is said of runs of the queue is
proved from here, without unfolding the step again.
-/

namespace Rhythm.Suites.Deployment

section Effects

variable {s s' : State} {a : Action}

/-! ## One job, one run and one worker in a step -/

def jobEffect (s : State) (a : Action) (job : WorkflowJob) : WorkflowJob :=
  match a with
  | .claimDeploymentJob workerID jobID _ =>
    if job.id = jobID then leaseWorkflowJob s.now workerID job else job
  | .watchDeploymentJob executionID =>
    match s.workers.get? executionID with
    | none => job
    | some w =>
      if job.id = w.jobId ∧ job.status = .leased ∧ job.leaseOwner = some w.workerID then
        { job with leaseExpiresAt := some (s.now + workflowLeaseDuration) }
      else job
  | .completeDeploymentJob executionID =>
    match s.workers.get? executionID with
    | none => job
    | some w =>
      if job.id = w.jobId ∧ job.leaseOwner = some w.workerID then
        { job with
          status := if w.cancelRequested then .cancelled
            else if w.stage = .claimed then .failed else .succeeded
          completedAt := some s.now
          leaseOwner := none
          leaseExpiresAt := none }
      else job
  | .cancelQueuedDeployment runID =>
    if job.runId = runID ∧ (job.status = .queued ∨ job.status = .leased) then
      { job with
        cancelRequestedAt := some s.now
        status := if job.status = .queued then .cancelled else job.status
        completedAt := if job.status = .queued then some s.now else job.completedAt }
    else job
  | .reapExpiredDeploymentJobs locked =>
    if ∃ item ∈ expiredWorkflowJobs s.now locked s.jobs, job.id = item.id then
      { job with
        status := .failed, completedAt := some s.now, leaseOwner := none, leaseExpiresAt := none }
    else job
  | _ => job

def workerEffect (s : State) (a : Action) (w : Worker) : Option Worker :=
  match a with
  | .getDeploymentRun executionID =>
    if w.id = executionID then
      (s.runs.get? w.runId).map fun row =>
        { w with stage := .loaded (normalizeDeploymentCancellation row) }
    else some w
  | .start executionID =>
    if w.id = executionID then
      match w.stage with
      | .loaded run => some { w with stage := .starting { run with status := .running } }
      | _ => some w
    else some w
  | .finish executionID outcome =>
    if w.id = executionID then
      match w.stage with
      | .running run => some { w with stage := .finished (outcome.apply run) }
      | _ => some w
    else some w
  | .saveDeployment executionID =>
    if w.id = executionID then some { w with stage := w.stage.afterSave } else some w
  | .return executionID =>
    if w.id = executionID then some { w with stage := .returned } else some w
  | .watchDeploymentJob executionID =>
    if w.id = executionID then
      some { w with
        cancelRequested := w.cancelRequested || workflowCancelRequested w.workerID w.jobId s.jobs }
    else some w
  | .completeDeploymentJob executionID | .crash executionID =>
    if w.id = executionID then none else some w
  | _ => some w

def addedJob (a : Action) (k : JobId) : Option WorkflowJob :=
  match a with
  | .createQueuedDeploymentRun jobID runID =>
    if jobID = k then some (queuedWorkflowJob jobID runID) else none
  | _ => none

def addedRun (a : Action) (k : ValidationRunId) : Option DeploymentRun :=
  match a with
  | .createQueuedDeploymentRun _ runID =>
    if runID = k then some (queuedDeploymentRun runID) else none
  | _ => none

def startedWorker (s : State) (a : Action) (k : ExecutionId) : Option Worker :=
  match a with
  | .claimDeploymentJob workerID jobID executionID =>
    if executionID = k then
      (s.jobs.get? jobID).map fun job => ⟨executionID, jobID, job.runId, workerID, .claimed, false⟩
    else none
  | _ => none

variable {executionID : ExecutionId}

theorem step_claim {workerID : WorkerId} {jobID : JobId}
    (h : step s (.claimDeploymentJob workerID jobID executionID) = some s') :
    ∃ job, s.jobs.get? jobID = some job ∧ job.status = .queued ∧ s'.runs = s.runs ∧
      s'.jobs = s.jobs.update (fun row => row.id = jobID) (leaseWorkflowJob s.now workerID) ∧
      s.workers.insert ⟨executionID, jobID, job.runId, workerID, .claimed, false⟩ =
        some s'.workers := by
  grind [step, claimWorkflowJob, Option.map_eq_some_iff]

theorem step_create {jobID : JobId} {runID : ValidationRunId}
    (h : step s (.createQueuedDeploymentRun jobID runID) = some s') :
    s.runs.insert (queuedDeploymentRun runID) = some s'.runs ∧
      s.jobs.insert (queuedWorkflowJob jobID runID) = some s'.jobs ∧ s'.workers = s.workers := by
  simp only [step] at h
  split at h
  · rename_i runs jobs hruns hjobs
    cases h
    exact ⟨hruns, hjobs, rfl⟩
  · contradiction

/-- **The job rows of the next state.** -/
theorem get?_step_jobs (h : step s a = some s') (k : JobId) :
    s'.jobs.get? k = ((s.jobs.get? k).map (jobEffect s a)).or (addedJob a k) := by
  cases a with
  | createQueuedDeploymentRun jobID runID =>
    obtain ⟨-, hjobs, -⟩ := step_create h
    rw [Table.get?_insert hjobs]
    exact congrArg (Option.or · _) (congrFun Option.map_id_fun _).symm
  | claimDeploymentJob workerID jobID executionID =>
    obtain ⟨job, -, -, -, hjobs, -⟩ := step_claim h
    rw [hjobs, Table.get?_update]
    exact (Option.or_none ..).symm
  | watchDeploymentJob executionID =>
    simp only [step] at h
    split at h
    · contradiction
    · rename_i worker hworker
      cases h
      refine Eq.trans ?_ (Option.or_none ..).symm
      simp only [renewWorkflowLease, Table.get?_update]
      exact Table.map_get?_congr fun job _ => by simp only [jobEffect, hworker]
  | completeDeploymentJob executionID =>
    simp only [step] at h
    split at h
    · contradiction
    · rename_i worker hworker
      split at h
      · cases h
        refine Eq.trans ?_ (Option.or_none ..).symm
        simp only [completeWorkflowJob, Table.get?_update]
        exact Table.map_get?_congr fun job _ => by simp only [jobEffect, hworker, decide_eq_true_eq]
      · contradiction
  | cancelQueuedDeployment runID =>
    simp only [step] at h
    split at h
    · cases h
      refine Eq.trans ?_ (Option.or_none ..).symm
      simp only [cancelWorkflowJobs, Table.get?_update]
      rfl
    · contradiction
  | reapExpiredDeploymentJobs locked =>
    cases h
    refine Eq.trans ?_ (Option.or_none ..).symm
    exact get?_reapWorkflowJobs ..
  | _ =>
    have hkept : s'.jobs = s.jobs := by
      simp only [step] at h
      grind [State.setWorker]
    rw [hkept]
    exact ((Option.or_none ..).trans (congrFun Option.map_id_fun _)).symm

/-- **The run rows of the next state.** -/
theorem get?_step_runs_or (h : step s a = some s') (k : ValidationRunId) :
    s'.runs.get? k = ((s.runs.get? k).map (runEffect s a)).or (addedRun a k) := by
  cases hrow : s.runs.get? k with
  | some row =>
    rw [get?_step_runs h hrow]
    rfl
  | none =>
    cases a with
    | createQueuedDeploymentRun jobID runID =>
      obtain ⟨hruns, -, -⟩ := step_create h
      rw [Table.get?_insert hruns, hrow]
      rfl
    | claimDeploymentJob workerID jobID executionID =>
      obtain ⟨job, -, -, hruns, -⟩ := step_claim h
      rw [hruns, hrow]
      rfl
    | reapExpiredDeploymentJobs locked =>
      cases h
      rw [Table.get?_foldl_update_of_stable fun _ row hmet => absurd hmet.2 (by
        simp [reapDeploymentRun, Status.isTerminal]), hrow]
      rfl
    | saveDeployment executionID =>
      simp only [step] at h
      split at h
      · contradiction
      · split at h
        · contradiction
        · cases h
          simp only [updateDeploymentRun, Table.get?_update, hrow, Option.map_none]
          rfl
    | cancelQueuedDeployment runID =>
      simp only [step] at h
      split at h
      · cases h
        simp only [Table.get?_update, hrow, Option.map_none]
        rfl
      · contradiction
    | _ =>
      have hkept : s'.runs = s.runs := by
        simp only [step] at h
        grind [State.setWorker]
      rw [hkept, hrow]
      rfl

theorem get?_setWorker {executionID k : ExecutionId} {f : Worker → Worker}
    {hf : Table.KeepsKey Worker.id f}
    (heffect : ∀ w, s.workers.get? executionID = some w → w.id = executionID →
      workerEffect s a w = some (f w))
    (hother : ∀ w, w.id ≠ executionID → workerEffect s a w = some w) :
    (s.setWorker executionID f hf).workers.get? k =
      (s.workers.get? k).bind (workerEffect s a) := by
  simp only [State.setWorker, Table.get?_update]
  cases hw : s.workers.get? k with
  | none => rfl
  | some w =>
    grind [Table.key_of_get?]

/-- **The workers of the next state.** -/
theorem get?_step_workers (h : step s a = some s') (k : ExecutionId) :
    s'.workers.get? k =
      ((s.workers.get? k).bind (workerEffect s a)).or (startedWorker s a k) := by
  have hsame : ∀ {workers : Option Worker}, workers = (workers.bind some).or none := by simp
  cases a with
  | tick elapsed | reapExpiredDeploymentJobs locked =>
    cases h
    exact hsame
  | createQueuedDeploymentRun jobID runID =>
    obtain ⟨-, -, hworkers⟩ := step_create h
    rw [hworkers]
    exact hsame
  | claimDeploymentJob workerID jobID executionID =>
    obtain ⟨job, hjob, -, -, -, hworkers⟩ := step_claim h
    rw [Table.get?_insert hworkers, startedWorker, hjob, Option.map_some]
    exact congrArg (Option.or · _) (Option.bind_fun_some _).symm
  | cancelQueuedDeployment runID =>
    simp only [step] at h
    split at h
    · cases h
      exact hsame
    · contradiction
  | crash executionID =>
    cases h
    rw [Table.get?_deleteWhere]
    exact (Option.or_none ..).symm
  | completeDeploymentJob executionID =>
    simp only [step] at h
    split at h
    · contradiction
    · split at h
      · cases h
        rw [Table.get?_deleteWhere]
        exact (Option.or_none ..).symm
      · contradiction
  | getDeploymentRun executionID =>
    simp only [step] at h
    split at h
    · contradiction
    · rename_i worker hworker
      split at h
      · rename_i row hstage hrow
        cases h
        refine Eq.trans ?_ (Option.or_none ..).symm
        refine get?_setWorker (fun w hw hid => ?_) fun w hid => if_neg hid
        rw [hworker] at hw
        cases hw
        simp [workerEffect, hid, hrow]
      · contradiction
  | start executionID | finish executionID outcome =>
    simp only [step] at h
    split at h
    · rename_i run hstage
      cases h
      refine Eq.trans ?_ (Option.or_none ..).symm
      refine get?_setWorker (fun w hw hid => ?_) fun w hid => if_neg hid
      simp only [State.stage?, hw, Option.map_some, Option.some.injEq] at hstage
      simp [workerEffect, hid, hstage]
    · contradiction
  | saveDeployment executionID =>
    simp only [step] at h
    split at h
    · contradiction
    · split at h
      · contradiction
      · cases h
        refine Eq.trans ?_ (Option.or_none ..).symm
        show (s.setWorker executionID fun w => { w with stage := w.stage.afterSave }).workers.get? k
          = _
        exact get?_setWorker (fun w _ hid => if_pos hid) fun w hid => if_neg hid
  | «return» executionID =>
    simp only [step] at h
    split at h
    · contradiction
    · split at h
      · cases h
        refine Eq.trans ?_ (Option.or_none ..).symm
        exact get?_setWorker (fun w _ hid => if_pos hid) fun w hid => if_neg hid
      · contradiction
  | watchDeploymentJob executionID =>
    simp only [step] at h
    split at h
    · contradiction
    · rename_i worker hworker
      cases h
      refine Eq.trans ?_ (Option.or_none ..).symm
      show (s.setWorker executionID fun w => { w with
        cancelRequested := w.cancelRequested ||
          workflowCancelRequested worker.workerID worker.jobId s.jobs }).workers.get? k = _
      refine get?_setWorker (fun w hw hid => ?_) fun w hid => if_neg hid
      rw [hworker] at hw
      cases hw
      exact if_pos hid

/-! ## Rows of the next state -/

theorem job_of_step (h : step s a = some s') {job' : WorkflowJob} (hjob' : job' ∈ s'.jobs) :
    (∃ job ∈ s.jobs, job' = jobEffect s a job) ∨
      ∃ jobID runID, a = .createQueuedDeploymentRun jobID runID ∧
        job' = queuedWorkflowJob jobID runID := by
  have hget := Table.get?_of_mem hjob'
  rw [get?_step_jobs h, Option.or_eq_some_iff] at hget
  rcases hget with hold | ⟨-, hnew⟩
  · obtain ⟨job, hjob, heffect⟩ := Option.map_eq_some_iff.mp hold
    exact .inl ⟨job, Table.mem_of_get? hjob, heffect.symm⟩
  · cases a with
    | createQueuedDeploymentRun jobID runID =>
      simp only [addedJob, guarded_eq_some_iff] at hnew
      exact .inr ⟨jobID, runID, rfl, hnew.2.symm⟩
    | _ => simp [addedJob] at hnew

theorem run_of_step (h : step s a = some s') {row' : DeploymentRun} (hrow' : row' ∈ s'.runs) :
    (∃ row ∈ s.runs, row' = runEffect s a row) ∨
      ∃ jobID runID, a = .createQueuedDeploymentRun jobID runID ∧
        row' = queuedDeploymentRun runID := by
  have hget := Table.get?_of_mem hrow'
  rw [get?_step_runs_or h, Option.or_eq_some_iff] at hget
  rcases hget with hold | ⟨-, hnew⟩
  · obtain ⟨row, hrow, heffect⟩ := Option.map_eq_some_iff.mp hold
    exact .inl ⟨row, Table.mem_of_get? hrow, heffect.symm⟩
  · cases a with
    | createQueuedDeploymentRun jobID runID =>
      simp only [addedRun, guarded_eq_some_iff] at hnew
      exact .inr ⟨jobID, runID, rfl, hnew.2.symm⟩
    | _ => simp [addedRun] at hnew

/-- A worker of the next state is one of this state after its effect, or it was
started by a claim of a queued job. -/
theorem worker_of_step (h : step s a = some s') {w' : Worker} (hw' : w' ∈ s'.workers) :
    (∃ w ∈ s.workers, workerEffect s a w = some w') ∨
      ∃ workerID executionID job, job ∈ s.jobs ∧ job.status = .queued ∧
        a = .claimDeploymentJob workerID job.id executionID ∧
        w' = ⟨executionID, job.id, job.runId, workerID, .claimed, false⟩ := by
  have hget := Table.get?_of_mem hw'
  rw [get?_step_workers h, Option.or_eq_some_iff] at hget
  rcases hget with hold | ⟨-, hnew⟩
  · obtain ⟨w, hw, heffect⟩ := Option.bind_eq_some_iff.mp hold
    exact .inl ⟨w, Table.mem_of_get? hw, heffect⟩
  · cases a with
    | claimDeploymentJob workerID jobID executionID =>
      obtain ⟨job, hjob, hqueued, -⟩ := step_claim h
      obtain ⟨hmem, rfl⟩ := Table.get?_eq_some_iff.mp hjob
      simp only [startedWorker, hjob, Option.map_some, guarded_eq_some_iff] at hnew
      exact .inr ⟨workerID, executionID, job, hmem, hqueued, rfl, hnew.2.symm⟩
    | _ => simp [startedWorker] at hnew

theorem jobEffect_ids (job : WorkflowJob) :
    (jobEffect s a job).id = job.id ∧ (jobEffect s a job).runId = job.runId := by
  cases a with
  | reapExpiredDeploymentJobs locked =>
    simp only [jobEffect]
    split <;> exact ⟨rfl, rfl⟩
  | _ =>
    simp only [jobEffect]
    grind [leaseWorkflowJob]

theorem runEffect_id (row : DeploymentRun) : (runEffect s a row).id = row.id := by
  cases a with
  | reapExpiredDeploymentJobs locked =>
    simp only [runEffect]
    split <;> rfl
  | saveDeployment | cancelQueuedDeployment =>
    simp only [runEffect]
    grind [cancelDeploymentRun]
  | _ => rfl

theorem workerEffect_ids {w w' : Worker} (h : workerEffect s a w = some w') :
    w'.id = w.id ∧ w'.jobId = w.jobId ∧ w'.runId = w.runId := by
  cases a with
  | getDeploymentRun executionID =>
    simp only [workerEffect] at h
    split at h
    · obtain ⟨row, -, rfl⟩ := Option.map_eq_some_iff.mp h
      exact ⟨rfl, rfl, rfl⟩
    · cases h
      exact ⟨rfl, rfl, rfl⟩
  | _ =>
    simp only [workerEffect] at h
    grind

theorem status_jobEffect_ne_queued {job : WorkflowJob} (h : job.status ≠ .queued) :
    (jobEffect s a job).status ≠ .queued := by
  cases a with
  | reapExpiredDeploymentJobs locked =>
    simp only [jobEffect]
    split
    · simp
    · exact h
  | _ =>
    simp only [jobEffect]
    grind [leaseWorkflowJob]

theorem mem_jobEffect (h : step s a = some s') {job : WorkflowJob} (hjob : job ∈ s.jobs) :
    jobEffect s a job ∈ s'.jobs := by
  have hget := get?_step_jobs h job.id
  rw [Table.get?_of_mem hjob] at hget
  exact Table.mem_of_get? hget

theorem mem_runEffect (h : step s a = some s') {row : DeploymentRun} (hrow : row ∈ s.runs) :
    runEffect s a row ∈ s'.runs :=
  Table.mem_of_get? (get?_step_runs h (Table.get?_of_mem hrow))

theorem step_save (h : step s (.saveDeployment executionID) = some s') :
    ∃ w ∈ s.workers, w.id = executionID ∧ ∃ run, w.stage.saves = some run ∧
      (s.stage? executionID).bind Stage.saves = some run := by
  simp only [step] at h
  split at h
  · contradiction
  · rename_i w hw
    split at h
    · contradiction
    · rename_i run hsaves
      exact ⟨w, Table.mem_of_get? hw, Table.key_of_get? hw, run, hsaves,
        by simp [State.stage?, hw, hsaves]⟩

theorem step_complete
    (h : step s (.completeDeploymentJob executionID) = some s') {w : Worker} (hw : w ∈ s.workers)
    (hid : w.id = executionID) : w.stage = .claimed ∨ w.stage = .returned := by
  have hget := Table.get?_of_mem hw
  rw [hid] at hget
  simp only [step, hget] at h
  split at h
  · rename_i hcomplete
    revert hcomplete
    cases w.stage <;> simp [Stage.mayComplete]
  · contradiction

theorem ends_of_workerEffect_none (h : step s a = some s') {w : Worker} (hw : w ∈ s.workers)
    (hnone : workerEffect s a w = none) :
    a = .completeDeploymentJob w.id ∨ a = .crash w.id := by
  have hget := Table.get?_of_mem hw
  cases a with
  | completeDeploymentJob executionID =>
    simp only [workerEffect, ite_eq_left_iff, reduceCtorEq, imp_false, not_not] at hnone
    exact .inl (by rw [hnone])
  | crash executionID =>
    simp only [workerEffect, ite_eq_left_iff, reduceCtorEq, imp_false, not_not] at hnone
    exact .inr (by rw [hnone])
  | getDeploymentRun executionID =>
    grind [workerEffect, Option.map_eq_none_iff, step]
  | start executionID | finish executionID =>
    simp only [workerEffect] at hnone
    grind
  | _ =>
    simp only [workerEffect] at hnone
    grind

theorem returned_of_workerEffect {w w' : Worker} (heffect : workerEffect s a w = some w')
    (hreturned : w'.stage = .returned) : w.stage = .returned ∨ a = .return w.id := by
  cases a with
  | getDeploymentRun executionID =>
    simp only [workerEffect] at heffect
    split at heffect
    · obtain ⟨row, -, rfl⟩ := Option.map_eq_some_iff.mp heffect
      simp at hreturned
    · cases heffect
      exact .inl hreturned
  | saveDeployment executionID =>
    simp only [workerEffect] at heffect
    split at heffect
    · cases heffect
      revert hreturned
      cases w.stage <;> simp [Stage.afterSave]
    · cases heffect
      exact .inl hreturned
  | _ =>
    simp only [workerEffect] at heffect
    grind

end Effects

end Rhythm.Suites.Deployment
