import Rhythm.Transition
import Rhythm.ExecutionJobs.Effects

/-!
# Rhythm.ExecutionJobs.Invariant

What holds in every state the queue can reach: each job has its own run, each
execution belongs to a job and carries that job's run, a lease owner stands
only on a leased job, a terminal job is never touched again, and a skipped run
has a terminal job.  `invariant_of_reachable` is the one induction over runs;
everything else is a statement about one step.
-/

namespace Rhythm.ExecutionJobs

open Runs RunRepository

/-! ## What a step never changes in a row -/

/-- Two states of one job row: whose job it is and its request stay. -/
structure SameJob (job job' : ExecutionJob) : Prop where
  id_eq : job'.id = job.id
  runId_eq : job'.runId = job.runId
  payload_eq : job'.payload = job.payload

theorem SameJob.refl (job : ExecutionJob) : SameJob job job := ⟨rfl, rfl, rfl⟩

theorem sameJob_claimedJob (now : Time) (workerID : WorkerId) (jobs : JobTable)
    (job : ExecutionJob) : SameJob job (claimedJob now workerID jobs job) := by
  unfold claimedJob
  split <;> exact ⟨rfl, rfl, rfl⟩

theorem sameJob_reclaimJob (now : Time) (job : ExecutionJob) :
    SameJob job (reclaimJob now job) := by
  unfold reclaimJob
  split <;> exact ⟨rfl, rfl, rfl⟩

theorem sameJob_jobEffect (s : State) (a : Action) (job : ExecutionJob) :
    SameJob job (jobEffect s a job) := by
  unfold jobEffect
  split
  · split
    · exact sameJob_claimedJob ..
    · exact .refl job
  · split
    · split <;> exact ⟨rfl, rfl, rfl⟩
    · exact .refl job
  · split
    · split <;> exact ⟨rfl, rfl, rfl⟩
    · exact .refl job
  · split <;> exact ⟨rfl, rfl, rfl⟩
  · split
    · exact sameJob_reclaimJob ..
    · exact .refl job
  · exact .refl job

/-! ## Rows of the next state -/

section NextState

variable {s s' : State} {a : Action}

theorem job_of_step (h : step s a = some s') {job' : ExecutionJob} (hjob' : job' ∈ s'.jobs) :
    (∃ job ∈ s.jobs, job' = jobEffect s a job) ∨
      ∃ jobID runID request, a = .enqueue jobID runID request ∧
        job' = queuedJob jobID runID request := by
  have hget := Table.get?_of_mem hjob'
  rw [get?_step_jobs h, Option.or_eq_some_iff] at hget
  rcases hget with hold | ⟨-, hnew⟩
  · obtain ⟨job, hjob, heffect⟩ := Option.map_eq_some_iff.mp hold
    exact .inl ⟨job, Table.mem_of_get? hjob, heffect.symm⟩
  · cases a with
    | enqueue jobID runID request =>
      simp only [addedJob, guarded_eq_some_iff] at hnew
      exact .inr ⟨jobID, runID, request, rfl, hnew.2.symm⟩
    | _ => simp [addedJob] at hnew

theorem get?_jobEffect (h : step s a = some s') {k : JobId} {job : ExecutionJob}
    (hjob : s.jobs.get? k = some job) : s'.jobs.get? k = some (jobEffect s a job) := by
  rw [get?_step_jobs h, hjob, Option.map_some, Option.some_or]

theorem get?_runEffect (h : step s a = some s')
    (hstored : ∀ e ∈ s.executions, ∃ row, s.runs.get? e.run.id = some row)
    {k : RunId} {row : MonitorRun} (hrow : s.runs.get? k = some row) :
    s'.runs.get? k = some (runEffect s a row) := by
  rw [get?_step_runs h hstored, hrow, Option.map_some, Option.some_or]

/-- An execution of the next state is one of this state after its effect, or it
was started by a claim that leased its job. -/
theorem execution_of_step (h : step s a = some s') {e' : Execution}
    (he' : e' ∈ s'.executions) :
    (∃ e ∈ s.executions, executionEffect s a e = some e') ∨
      ∃ workerID executionID job, job ∈ s.jobs ∧ a = .claim workerID job.id executionID ∧
        claimDecision s.now s.jobs job = .lease ∧
        e' = startExecution s.now executionID workerID job.id job.runId job.payload := by
  have hget := Table.get?_of_mem he'
  rw [get?_step_executions h, Option.or_eq_some_iff] at hget
  rcases hget with hold | ⟨-, hnew⟩
  · obtain ⟨e, he, heffect⟩ := Option.bind_eq_some_iff.mp hold
    exact .inl ⟨e, Table.mem_of_get? he, heffect⟩
  · cases a with
    | claim workerID jobID executionID =>
      simp only [startedExecution] at hnew
      split at hnew
      · rename_i runID request hready
        obtain ⟨job, hjob, hdecision, rfl, rfl⟩ := claim_ready_iff.mp hready
        simp only [guarded_eq_some_iff] at hnew
        obtain ⟨hmem, rfl⟩ := Table.get?_eq_some_iff.mp hjob
        exact .inr ⟨workerID, executionID, job, hmem, rfl, hdecision, hnew.2.symm⟩
      · contradiction
    | _ => simp [startedExecution] at hnew

theorem mem_of_executionEffect (h : step s a = some s') {e e' : Execution}
    (he : e ∈ s.executions) (heffect : executionEffect s a e = some e') :
    e' ∈ s'.executions := by
  have hget := get?_step_executions h e.id
  rw [Table.get?_of_mem he, Option.bind_some, heffect, Option.some_or] at hget
  exact Table.mem_of_get? hget

theorem executionEffect_ids {e e' : Execution} (h : executionEffect s a e = some e') :
    e'.id = e.id ∧ e'.jobId = e.jobId ∧ e'.runId = e.runId ∧ e'.workerID = e.workerID ∧
      e'.run.id = e.run.id := by
  cases a <;> simp only [executionEffect, Option.some.injEq, Option.ite_none_left_eq_some] at h <;>
    grind [settleRun]

end NextState

/-- What holds in every reachable state. -/
structure Invariant (s : State) : Prop where
  runOfJob : ∀ job ∈ s.jobs, ∃ row, s.runs.get? job.runId = some row
  jobOfRun : ∀ job ∈ s.jobs, ∀ job' ∈ s.jobs, job.runId = job'.runId → job = job'
  jobOfExecution : ∀ e ∈ s.executions, ∃ job ∈ s.jobs, job.id = e.jobId ∧ job.runId = e.runId
  runOfExecution : ∀ e ∈ s.executions, e.run.id = e.runId
  statusOfExecution : ∀ e ∈ s.executions,
    e.run.status = .running ∨ e.run.status.isWorkerOutcome = true
  leasedOfOwner : ∀ job ∈ s.jobs, job.leaseOwner ≠ none → job.status = .leased
  terminalOfSkipped : ∀ job ∈ s.jobs, ∀ row, s.runs.get? job.runId = some row →
    row.status = .skipped → job.status.isTerminal = true

theorem invariant_initial (now : Time) : Invariant (initial now) where
  runOfJob := fun job hjob => absurd hjob (Table.not_mem_empty job)
  jobOfRun := fun job hjob => absurd hjob (Table.not_mem_empty job)
  jobOfExecution := fun e he => absurd he (Table.not_mem_empty e)
  runOfExecution := fun e he => absurd he (Table.not_mem_empty e)
  statusOfExecution := fun e he => absurd he (Table.not_mem_empty e)
  leasedOfOwner := fun job hjob => absurd hjob (Table.not_mem_empty job)
  terminalOfSkipped := fun job hjob => absurd hjob (Table.not_mem_empty job)

section Preservation

variable {s s' : State} {a : Action}

theorem Invariant.runStored (hI : Invariant s) :
    ∀ e ∈ s.executions, ∃ row, s.runs.get? e.run.id = some row := by
  intro e he
  obtain ⟨job, hjob, -, hrunId⟩ := hI.jobOfExecution e he
  rw [hI.runOfExecution e he, ← hrunId]
  exact hI.runOfJob job hjob

theorem fresh_of_enqueue {jobID : JobId} {runID : RunId} {request : QueueRequest}
    (h : step s (.enqueue jobID runID request) = some s') :
    s.runs.get? runID = none ∧ ∀ job ∈ s.jobs, job.runId ≠ runID := by
  obtain ⟨db, henqueue, -⟩ := step_enqueue h
  obtain ⟨hruns, -, hfree⟩ := enqueue_ok henqueue
  exact ⟨Table.get?_of_insert_eq_none hruns, hfree⟩

theorem get?_enqueued {jobID : JobId} {runID : RunId} {request : QueueRequest}
    (hI : Invariant s) (h : step s (.enqueue jobID runID request) = some s') :
    s'.runs.get? runID = some (queuedRun runID request) := by
  rw [get?_step_runs h hI.runStored, (fresh_of_enqueue h).1]
  simp [addedRun]

/-- **A terminal job is never touched again.** -/
theorem jobEffect_of_isTerminal (hI : Invariant s) {job : ExecutionJob} (hjob : job ∈ s.jobs)
    (hterminal : job.status.isTerminal = true) : jobEffect s a job = job := by
  have hqueued : job.status ≠ .queued := fun h => by simp [h, JobStatus.isTerminal] at hterminal
  have hleased : job.status ≠ .leased := fun h => by simp [h, JobStatus.isTerminal] at hterminal
  have howner : job.leaseOwner = none := by
    by_contra hne
    exact hleased (hI.leasedOfOwner job hjob hne)
  cases a with
  | claim workerID jobID executionID =>
    simp [jobEffect, claimedJob, claimDecision, hqueued]
  | watchCancellation executionID =>
    simp only [jobEffect]
    split
    · rw [if_neg fun hown => hleased hown.2.1]
    · rfl
  | complete executionID =>
    simp only [jobEffect, howner]
    split
    · rw [if_neg fun hown => by simp at hown]
    · rfl
  | requestCancel runID => simp [jobEffect, hqueued, hleased]
  | reclaimExpiredBatch locked =>
    rw [jobEffect, if_neg fun hmem => hleased (mem_of_mem_expiredBatch hmem).2.1.1]
  | _ => rfl

theorem skipped_of_runEffect (hI : Invariant s) {row : MonitorRun}
    (hskipped : (runEffect s a row).status = .skipped) :
    row.status = .skipped ∨ ∃ workerID jobID executionID,
      a = .claim workerID jobID executionID ∧ SkipsRun s.now jobID s.jobs row := by
  cases a with
  | claim workerID jobID executionID =>
    grind [SkipsRun, runEffect]
  | save executionID =>
    cases he : s.executions.get? executionID with
    | none =>
      simp only [runEffect, he] at hskipped
      exact .inl hskipped
    | some e =>
      simp only [runEffect, he] at hskipped
      split at hskipped
      · rw [savedRow_status] at hskipped
        rcases hI.statusOfExecution e (Table.mem_of_get? he) with hrunning | houtcome
        · rw [hrunning] at hskipped
          contradiction
        · rw [hskipped] at houtcome
          contradiction
      · exact .inl hskipped
  | complete executionID =>
    grind [runEffect, abortRun_status]
  | requestCancel runID =>
    grind [runEffect, cancelRun]
  | reclaimExpiredBatch locked =>
    simp only [runEffect] at hskipped
    split at hskipped
    · rw [abortRun_status] at hskipped
      contradiction
    · exact .inl hskipped
  | _ => exact .inl hskipped

theorem leased_of_jobEffect {job : ExecutionJob}
    (hjob : job.leaseOwner ≠ none → job.status = .leased)
    (howner : (jobEffect s a job).leaseOwner ≠ none) : (jobEffect s a job).status = .leased := by
  cases a with
  | claim workerID jobID executionID =>
    simp only [jobEffect] at howner ⊢
    split at howner
    · rename_i hid
      rw [if_pos hid]
      unfold claimedJob at howner ⊢
      cases hdecision : claimDecision s.now s.jobs job with
      | refuse =>
        simp only [hdecision] at howner
        exact hjob howner
      | skip =>
        grind [status_of_claimDecision, skipJob]
      | defer =>
        simp only [hdecision, deferJob] at howner
        exact hjob howner
      | lease => rfl
    · rename_i hid
      rw [if_neg hid]
      exact hjob howner
  | watchCancellation executionID =>
    simp only [jobEffect] at howner ⊢
    split at howner <;> grind [renewLease, OwnLease]
  | complete executionID =>
    simp only [jobEffect] at howner ⊢
    split at howner <;> grind [completeJob]
  | requestCancel runID =>
    simp only [jobEffect] at howner ⊢
    grind [cancelJob]
  | reclaimExpiredBatch locked =>
    simp only [jobEffect] at howner ⊢
    grind [reclaimJob, requeueJob, failLostJob]
  | _ => exact hjob howner

theorem runOfJob_step (hI : Invariant s) (h : step s a = some s') :
    ∀ job ∈ s'.jobs, ∃ row, s'.runs.get? job.runId = some row := by
  intro job' hjob'
  rcases job_of_step h hjob' with ⟨job, hjob, rfl⟩ | ⟨jobID, runID, request, rfl, rfl⟩
  · obtain ⟨row, hrow⟩ := hI.runOfJob job hjob
    rw [(sameJob_jobEffect s a job).runId_eq]
    exact ⟨_, get?_runEffect h hI.runStored hrow⟩
  · exact ⟨_, get?_enqueued hI h⟩

theorem jobOfRun_step (hI : Invariant s) (h : step s a = some s') :
    ∀ job ∈ s'.jobs, ∀ job' ∈ s'.jobs, job.runId = job'.runId → job = job' := by
  intro job₁ hjob₁ job₂ hjob₂ hrun
  rcases job_of_step h hjob₁ with ⟨job, hjob, rfl⟩ | ⟨jobID, runID, request, rfl, rfl⟩
  · rw [(sameJob_jobEffect s a job).runId_eq] at hrun
    rcases job_of_step h hjob₂ with ⟨job', hjob', rfl⟩ | ⟨jobID, runID, request, rfl, rfl⟩
    · rw [(sameJob_jobEffect s a job').runId_eq] at hrun
      rw [hI.jobOfRun job hjob job' hjob' hrun]
    · exact absurd hrun ((fresh_of_enqueue h).2 job hjob)
  · rcases job_of_step h hjob₂ with ⟨job', hjob', heq⟩ | ⟨jobID', runID', request', heq, rfl⟩
    · rw [heq, (sameJob_jobEffect s _ job').runId_eq] at hrun
      exact absurd hrun.symm ((fresh_of_enqueue h).2 job' hjob')
    · cases heq
      rfl

theorem jobOfExecution_step (hI : Invariant s) (h : step s a = some s') :
    ∀ e ∈ s'.executions, ∃ job ∈ s'.jobs, job.id = e.jobId ∧ job.runId = e.runId := by
  intro e' he'
  have hstays : ∀ job ∈ s.jobs, ∃ job' ∈ s'.jobs, job'.id = job.id ∧ job'.runId = job.runId := by
    intro job hjob
    have hsame := sameJob_jobEffect s a job
    exact ⟨jobEffect s a job, Table.mem_of_get? (get?_jobEffect h (Table.get?_of_mem hjob)),
      hsame.id_eq, hsame.runId_eq⟩
  rcases execution_of_step h he' with
    ⟨e, he, heffect⟩ | ⟨workerID, executionID, job, hjob, -, -, rfl⟩
  · obtain ⟨-, hjobId, hrunId, -, -⟩ := executionEffect_ids heffect
    obtain ⟨job, hjob, hid, hrun⟩ := hI.jobOfExecution e he
    obtain ⟨job', hjob', hid', hrun'⟩ := hstays job hjob
    exact ⟨job', hjob', hid'.trans (hid.trans hjobId.symm), hrun'.trans (hrun.trans hrunId.symm)⟩
  · exact hstays job hjob

theorem runOfExecution_step (hI : Invariant s) (h : step s a = some s') :
    ∀ e ∈ s'.executions, e.run.id = e.runId := by
  intro e' he'
  rcases execution_of_step h he' with ⟨e, he, heffect⟩ | ⟨_, _, _, _, -, -, rfl⟩
  · obtain ⟨-, -, hrunId, -, hrun⟩ := executionEffect_ids heffect
    rw [hrun, hrunId]
    exact hI.runOfExecution e he
  · rfl

theorem statusOfExecution_step (hI : Invariant s) (h : step s a = some s') :
    ∀ e ∈ s'.executions, e.run.status = .running ∨ e.run.status.isWorkerOutcome = true := by
  intro e' he'
  rcases execution_of_step h he' with ⟨e, he, heffect⟩ | ⟨_, _, _, _, -, -, rfl⟩
  · have hstatus := hI.statusOfExecution e he
    cases a with
    | settle executionID status failureCategory failureReason =>
      obtain ⟨-, -, -, -, houtcome, -⟩ := step_settle h
      simp only [executionEffect, Option.some.injEq] at heffect
      subst heffect
      split
      · exact .inr houtcome
      · exact hstatus
    | _ =>
      simp only [executionEffect, Option.some.injEq, Option.ite_none_left_eq_some] at heffect
      grind
  · exact .inl rfl

theorem leasedOfOwner_step (hI : Invariant s) (h : step s a = some s') :
    ∀ job ∈ s'.jobs, job.leaseOwner ≠ none → job.status = .leased := by
  intro job' hjob' howner
  rcases job_of_step h hjob' with ⟨job, hjob, rfl⟩ | ⟨jobID, runID, request, rfl, rfl⟩
  · exact leased_of_jobEffect (hI.leasedOfOwner job hjob) howner
  · exact absurd rfl howner

theorem terminalOfSkipped_step (hI : Invariant s) (h : step s a = some s') :
    ∀ job ∈ s'.jobs, ∀ row, s'.runs.get? job.runId = some row →
      row.status = .skipped → job.status.isTerminal = true := by
  intro job' hjob' row' hrow' hskipped
  rcases job_of_step h hjob' with ⟨job, hjob, rfl⟩ | ⟨jobID, runID, request, rfl, rfl⟩
  · obtain ⟨row, hrow⟩ := hI.runOfJob job hjob
    rw [(sameJob_jobEffect s a job).runId_eq, get?_runEffect h hI.runStored hrow,
      Option.some.injEq] at hrow'
    subst hrow'
    rcases skipped_of_runEffect hI hskipped with hwas | ⟨workerID, jobID, executionID, rfl, hskips⟩
    · have hterminal := hI.terminalOfSkipped job hjob row hrow hwas
      rw [jobEffect_of_isTerminal hI hjob hterminal]
      exact hterminal
    · -- the run is skipped together with its own job
      unfold SkipsRun at hskips
      split at hskips
      · exact hskips.elim
      · rename_i claimed hclaimed
        obtain ⟨hdecision, hid, -⟩ := hskips
        have hsame : job = claimed := hI.jobOfRun job hjob claimed (Table.mem_of_get? hclaimed)
          ((Table.key_of_get? hrow).symm.trans hid)
        subst hsame
        rw [jobEffect, if_pos (Table.key_of_get? hclaimed), claimedJob, hdecision]
        rfl
  · rw [show (queuedJob jobID runID request).runId = runID from rfl, get?_enqueued hI h,
      Option.some.injEq] at hrow'
    subst hrow'
    contradiction

theorem invariant_step (hI : Invariant s) (h : step s a = some s') : Invariant s' where
  runOfJob := runOfJob_step hI h
  jobOfRun := jobOfRun_step hI h
  jobOfExecution := jobOfExecution_step hI h
  runOfExecution := runOfExecution_step hI h
  statusOfExecution := statusOfExecution_step hI h
  leasedOfOwner := leasedOfOwner_step hI h
  terminalOfSkipped := terminalOfSkipped_step hI h

end Preservation

/-- **Every reachable state satisfies the invariant.** -/
theorem invariant_of_reachable {now : Time} {s : State} (h : Reachable step (initial now) s) :
    Invariant s :=
  h.invariant (fun _ _ _ => invariant_step) (invariant_initial now)

/-- A recovery-safe manual run of monitor 1, queued at time 0, for the concrete
runs of the queue. -/
def sampleRequest : QueueRequest where
  monitorId := 1
  revisionId := 1
  published := true
  triggerType := none
  concurrencyPolicy := none
  deduplication := none
  queuedAt := 0
  recoverySafe := true

end Rhythm.ExecutionJobs
