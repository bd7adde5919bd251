import Rhythm.BrowserMonitors.Effects
import Rhythm.ExecutionJobs.Invariant
import Rhythm.Suites.DeploymentEffects

/-!
# Rhythm.ExecutionJobs.Replay

Work that is not safe to replay.  The jobs with `recoverySafe=false` are the
monitor executions that say so, all deployment validations and all browser
runs; the three queues share `execution_jobs` and each has a reaper of its own.
A job of this kind that has left `QUEUED` never comes back, so it is leased at
most once.
-/

namespace Rhythm.ExecutionJobs

/-! ## Leases of one job -/

section Leases

variable {σ α ρ : Type} {key : ρ → JobId}

/-- How the rows of `execution_jobs` stand in the state of a queue. -/
structure JobView (σ ρ : Type) (key : ρ → JobId) where
  jobs : σ → Table ρ key
  status : ρ → JobStatus
  /-- `COALESCE((payload_json->>'recoverySafe')::boolean,FALSE)` -/
  recoverySafe : ρ → Bool

/-- The step moves the job to `LEASED`, and the job's payload has `recoverySafe=false`. -/
def JobView.LeasesUnsafe (view : JobView σ ρ key) (jobID : JobId) (s : σ) (_ : α) (s' : σ) : Prop :=
  ((view.jobs s').get? jobID).any
      (fun job => view.status job = .leased ∧ view.recoverySafe job = false) = true ∧
    ((view.jobs s).get? jobID).all (fun job => view.status job ≠ .leased) = true

instance (view : JobView σ ρ key) (jobID : JobId) (s : σ) (a : α) (s' : σ) :
    Decidable (view.LeasesUnsafe jobID s a s') :=
  inferInstanceAs (Decidable (_ ∧ _))

/-- A job with `recoverySafe=false` that is not `QUEUED` stays as it is or ends. -/
def JobView.NeverRequeues (view : JobView σ ρ key) (step : σ → α → Option σ) : Prop :=
  ∀ s a s', step s a = some s' → ∀ jobID job, (view.jobs s).get? jobID = some job →
    view.recoverySafe job = false → view.status job ≠ .queued →
    ∃ job', (view.jobs s').get? jobID = some job' ∧ view.recoverySafe job' = false ∧
      (view.status job' = view.status job ∨ (view.status job').isTerminal = true)

theorem JobView.NeverRequeues.leases_le_one {view : JobView σ ρ key} {step : σ → α → Option σ}
    (h : view.NeverRequeues step) (jobID : JobId) (s : σ) (as : List α) :
    occurrences step (view.LeasesUnsafe jobID) s as ≤ 1 := by
  -- once leased, the job is not `QUEUED`, and that lasts
  refine occurrences_le_one (P := fun s => ∃ job, (view.jobs s).get? jobID = some job ∧
    view.recoverySafe job = false ∧ view.status job ≠ .queued) ?_ ?_ ?_
  · rintro s a s' - ⟨hleased, -⟩
    cases hjob : (view.jobs s').get? jobID with
    | none => simp [hjob] at hleased
    | some job =>
      grind
  · rintro s a s' ⟨job, hjob, hunsafe, hstatus⟩ hstep
    obtain ⟨job', hjob', hunsafe', hsame | hended⟩ := h s a s' hstep jobID job hjob hunsafe hstatus
    · exact ⟨job', hjob', hunsafe', hsame ▸ hstatus⟩
    · refine ⟨job', hjob', hunsafe', fun hqueued => ?_⟩
      rw [hqueued] at hended
      contradiction
  · rintro s a s' ⟨job, hjob, hunsafe, hstatus⟩ hstep ⟨hleased, hbefore⟩
    obtain ⟨job', hjob', -, hkept⟩ := h s a s' hstep jobID job hjob hunsafe hstatus
    have hrow : view.status job' = .leased ∧ view.recoverySafe job' = false := by
      simpa [hjob'] using hleased
    have hnot : view.status job ≠ .leased := by simpa [hjob] using hbefore
    rw [hrow.1] at hkept
    cases hkept with
    | inl hsame => exact hnot hsame.symm
    | inr hended => contradiction

end Leases

/-! ## The three queues -/

def monitorJobs : JobView State ExecutionJob ExecutionJob.id where
  jobs := fun s => s.jobs
  status := ExecutionJob.status
  recoverySafe := fun job => job.payload.recoverySafe

/-- The deployment validations, all with `"recoverySafe": false`. -/
def deploymentJobs :
    JobView Suites.Deployment.State Suites.WorkflowJob Suites.WorkflowJob.id where
  jobs := Suites.Deployment.State.jobs
  status := Suites.WorkflowJob.status
  recoverySafe := fun _ => false

/-- The browser runs, all with `"recoverySafe": false`. -/
def browserJobs : JobView BrowserMonitors.State Suites.WorkflowJob Suites.WorkflowJob.id where
  jobs := BrowserMonitors.State.jobs
  status := Suites.WorkflowJob.status
  recoverySafe := fun _ => false

theorem monitorJobs_neverRequeues : monitorJobs.NeverRequeues step := by
  intro s a s' hstep jobID job hjob hunsafe hstatus
  refine ⟨jobEffect s a job, get?_jobEffect hstep hjob, ?_, ?_⟩
  · have hpayload := (sameJob_jobEffect s a job).payload_eq
    exact (congrArg Runs.QueueRequest.recoverySafe hpayload).trans hunsafe
  · change job.payload.recoverySafe = false at hunsafe
    change job.status ≠ .queued at hstatus
    change (jobEffect s a job).status = job.status ∨ (jobEffect s a job).status.isTerminal = true
    cases a with
    | claim workerID jobID executionID =>
      simp [jobEffect, claimedJob, claimDecision, hstatus]
    | reclaimExpiredBatch locked =>
      simp only [jobEffect, reclaimJob, hunsafe]
      split <;> simp [failLostJob, JobStatus.isTerminal]
    | complete executionID =>
      simp only [jobEffect]
      split
      · split
        · right
          simp only [completeJob, completedStatus]
          split <;> [rfl; split <;> rfl]
        · exact .inl rfl
      · exact .inl rfl
    | requestCancel runID =>
      simp only [jobEffect]
      split
      · simp [RunRepository.cancelJob, hstatus]
      · exact .inl rfl
    | watchCancellation executionID =>
      simp only [jobEffect]
      split
      · split <;> exact .inl rfl
      · exact .inl rfl
    | _ => exact .inl rfl

theorem deploymentJobs_neverRequeues : deploymentJobs.NeverRequeues Suites.Deployment.step := by
  intro s a s' hstep jobID job hjob hunsafe hstatus
  change s.jobs.get? jobID = some job at hjob
  change job.status ≠ .queued at hstatus
  refine ⟨Suites.Deployment.jobEffect s a job, ?_, rfl, ?_⟩
  · change s'.jobs.get? jobID = _
    rw [Suites.Deployment.get?_step_jobs hstep, hjob, Option.map_some, Option.some_or]
  · change (Suites.Deployment.jobEffect s a job).status = job.status ∨
      (Suites.Deployment.jobEffect s a job).status.isTerminal = true
    cases a with
    | claimDeploymentJob workerID claimed executionID =>
      obtain ⟨found, hfound, hqueued, -⟩ := Suites.Deployment.step_claim hstep
      have hother : job.id ≠ claimed := by
        rintro rfl
        rw [Table.key_of_get? hjob, hjob, Option.some.injEq] at hfound
        exact hstatus (hfound ▸ hqueued)
      simp [Suites.Deployment.jobEffect, hother]
    | reapExpiredDeploymentJobs locked =>
      simp only [Suites.Deployment.jobEffect]
      split
      · exact .inr rfl
      · exact .inl rfl
    | _ =>
      simp only [Suites.Deployment.jobEffect]
      grind [JobStatus.isTerminal]

theorem browserJobs_neverRequeues : browserJobs.NeverRequeues BrowserMonitors.step := by
  intro s a s' hstep jobID job hjob hunsafe hstatus
  change s.jobs.get? jobID = some job at hjob
  change job.status ≠ .queued at hstatus
  refine ⟨BrowserMonitors.jobEffect s a job, ?_, rfl, ?_⟩
  · have hmem := BrowserMonitors.mem_jobEffect hstep (Table.mem_of_get? hjob)
    have hid : (BrowserMonitors.jobEffect s a job).id = jobID :=
      (BrowserMonitors.jobEffect_ids job).1.trans (Table.key_of_get? hjob)
    exact hid ▸ Table.get?_of_mem hmem
  · change (BrowserMonitors.jobEffect s a job).status = job.status ∨
      (BrowserMonitors.jobEffect s a job).status.isTerminal = true
    cases a with
    | claimBrowserJob workerID claimed executionID =>
      obtain ⟨found, hfound, hqueued, -⟩ := BrowserMonitors.step_claim hstep
      have hother : job.id ≠ claimed := by
        rintro rfl
        rw [Table.key_of_get? hjob, hjob, Option.some.injEq] at hfound
        exact hstatus (hfound ▸ hqueued)
      simp [BrowserMonitors.jobEffect, hother]
    | reapExpiredBrowserJobs locked =>
      simp only [BrowserMonitors.jobEffect]
      split
      · exact .inr rfl
      · exact .inl rfl
    | _ =>
      simp only [BrowserMonitors.jobEffect]
      grind [JobStatus.isTerminal]

/-! ## No replay -/

/-- **Unsafe work is never replayed.**  Whatever the workers, their crashes, the cancellations and
the reapers do, and in whatever order: a job whose payload has `recoverySafe=false` is
moved to `LEASED` at most once. -/
theorem leased_at_most_once (jobID : JobId) :
    (∀ s as, occurrences step (monitorJobs.LeasesUnsafe jobID) s as ≤ 1) ∧
      (∀ s as, occurrences Suites.Deployment.step (deploymentJobs.LeasesUnsafe jobID) s as ≤ 1) ∧
      ∀ s as, occurrences BrowserMonitors.step (browserJobs.LeasesUnsafe jobID) s as ≤ 1 :=
  ⟨monitorJobs_neverRequeues.leases_le_one jobID,
    deploymentJobs_neverRequeues.leases_le_one jobID,
    browserJobs_neverRequeues.leases_le_one jobID⟩

/-- A lost lease is counted once, although a second worker asks for the job. -/
example :
    let request : Runs.QueueRequest :=
      ⟨1, 1, true, some .scheduled, some .queue, none, 0, false⟩
    occurrences step (monitorJobs.LeasesUnsafe 1) (initial 0)
      [.enqueue 1 1 request, .claim 1 1 1, .crash 1, .tick 90001, .reclaimExpiredBatch [],
        .claim 2 1 2] = 1 := by
  decide

end Rhythm.ExecutionJobs
