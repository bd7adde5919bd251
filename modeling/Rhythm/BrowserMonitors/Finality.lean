import Rhythm.BrowserMonitors.Effects

/-!
# Rhythm.BrowserMonitors.Finality

A browser run that is over should stay as it is, and a browser job that has
ended should leave a run that is over.  The writes of `execute` do not look at
the status of the run, so one that comes after `CancelRun` or the reaper moves
the run again; a `finishFailure` that is lost, or that `completeBrowserJob`
skips because the execution was cancelled, leaves the run of an ended job open.
Without these both hold along every run (`final_along`).
-/

namespace Rhythm.BrowserMonitors

open Suites (WorkflowJob queuedWorkflowJob leaseWorkflowJob WorkflowLeaseExpired)

/-- No run that is over in `s` has another status in `s'`. -/
def KeepsTerminal (s s' : State) : Prop :=
  ∀ row ∈ s.runs, terminal row.status = true →
    (s'.runs.get? row.id).map BrowserRun.status = some row.status

instance (s s' : State) : Decidable (KeepsTerminal s s') :=
  inferInstanceAs (Decidable (∀ row ∈ s.runs, _))

def State.RunOver (s : State) (runID : RunId) : Prop :=
  ∃ row ∈ s.runs, row.id = runID ∧ terminal row.status = true

instance (s : State) (runID : RunId) : Decidable (s.RunOver runID) :=
  inferInstanceAs (Decidable (∃ row ∈ s.runs, _))

def State.Executing (s : State) (jobID : JobId) : Prop := ∃ w ∈ s.workers, w.jobId = some jobID

instance (s : State) (jobID : JobId) : Decidable (s.Executing jobID) :=
  inferInstanceAs (Decidable (∃ w ∈ s.workers, _))

/-- Every job that has ended and that no worker is executing has a run that is over. -/
def Finished (s : State) : Prop :=
  ∀ job ∈ s.jobs, job.status.isTerminal = true → ¬ s.Executing job.id → s.RunOver job.runId

instance (s : State) : Decidable (Finished s) := inferInstanceAs (Decidable (∀ job ∈ s.jobs, _))

def State.WriteSpares (s : State) (w : Worker) (move : Move) : Prop :=
  ∀ write ∈ w.write? move, ∀ row ∈ s.runs, row.id = w.runId → terminal row.status = true →
    write.status = row.status

instance (s : State) (w : Worker) (move : Move) : Decidable (s.WriteSpares w move) :=
  inferInstanceAs (Decidable (∀ write ∈ w.write? move, _))

/-- The result that `persistResult` stores. -/
def Stage.result? : Stage → Option RunnerResult
  | .persisting result => some result
  | _ => none

/-- The last write of a job's execution ends the run: the agent's result has a status that ends
it, and a `finishFailure` is not lost, unless the run is over anyway. -/
def State.EndWrites (s : State) (w : Worker) : Move → Prop
  | .persistResult _ true => ∀ result ∈ w.stage.result?, terminal result.endStatus = true
  | .finishFailure false => s.RunOver w.runId
  | _ => True

instance (s : State) (w : Worker) : DecidablePred (s.EndWrites w)
  | .persistResult _ true => inferInstanceAs (Decidable (∀ result ∈ w.stage.result?, _))
  | .finishFailure false => inferInstanceAs (Decidable (s.RunOver w.runId))
  | .finishFailure true | .persistResult _ false | .updateRunState _ | .prepare _
  | .runnerExecute _ | .persistArtifacts _ => isTrue trivial

/-- * A write of `execute` finds its run not over, or over with the status that it writes.
* The last write of a job's execution ends the run.
* A job whose run was not loaded is completed as cancelled only when its run is over. -/
def KeepsFinal (s : State) (a : Action) : Prop :=
  match a with
  | .execute executionID move => ∀ w ∈ s.workers, w.id = executionID →
      s.WriteSpares w move ∧ (w.jobId ≠ none → s.EndWrites w move)
  | .completeBrowserJob executionID => ∀ w ∈ s.workers, w.id = executionID →
      w.jobId ≠ none → w.stage = .loadFailed → s.RunOver w.runId
  | _ => True

instance (s : State) : DecidablePred (KeepsFinal s)
  | .execute _ _ => inferInstanceAs (Decidable (∀ w ∈ s.workers, _))
  | .completeBrowserJob _ => inferInstanceAs (Decidable (∀ w ∈ s.workers, _))
  | .tick _ | .createMonitor _ | .startRun _ _ _ | .getMonitor _ _ _ _ | .insertRun _
  | .claimBrowserJob _ _ _ | .load _ _ | .watchBrowserJob _ | .cancelContext _ | .crash _
  | .cancelRun _ | .reapExpiredBrowserJobs _ | .acknowledge _ | .resolve _ => isTrue trivial

/-- What holds along a run. -/
structure Invariant (s : State) : Prop where
  runOfJob : ∀ job ∈ s.jobs, ∃ row ∈ s.runs, row.id = job.runId ∧
    (job.status = .queued → row.status = .queued) ∧
    (job.status.isTerminal = true → terminal row.status = true)
  jobOfRun : ∀ job ∈ s.jobs, ∀ job' ∈ s.jobs, job.runId = job'.runId → job = job'
  runOfWorker : ∀ w ∈ s.workers, w.stage ≠ .inserting → ∃ row ∈ s.runs, row.id = w.runId
  started : ∀ w ∈ s.workers, w.stage ≠ .inserting → ∀ job ∈ s.jobs, job.runId = w.runId →
    job.status ≠ .queued
  jobOfWorker : ∀ w ∈ s.workers, ∀ jobID, w.jobId = some jobID →
    w.stage ≠ .inserting ∧ ∃ job ∈ s.jobs, job.id = jobID ∧ job.runId = w.runId
  ended : ∀ w ∈ s.workers, w.jobId ≠ none → w.stage = .returned ∨ w.stage = .completing →
    s.RunOver w.runId

theorem invariant_initial (now : Time) : Invariant (initial now) where
  runOfJob := fun job hjob => absurd hjob (Table.not_mem_empty job)
  jobOfRun := fun job hjob => absurd hjob (Table.not_mem_empty job)
  runOfWorker := fun w hw => absurd hw (Table.not_mem_empty w)
  started := fun w hw => absurd hw (Table.not_mem_empty w)
  jobOfWorker := fun w hw => absurd hw (Table.not_mem_empty w)
  ended := fun w hw => absurd hw (Table.not_mem_empty w)

theorem Invariant.finished {s : State} (h : Invariant s) : Finished s := by
  intro job hjob hterminal _
  obtain ⟨row, hrow, hid, -, hover⟩ := h.runOfJob job hjob
  exact ⟨row, hrow, hid, hover hterminal⟩

/-! ## Effects on what is over, queued or started -/

section Step

variable {s s' : State} {a : Action}

variable {job : WorkflowJob}

theorem queued_of_jobEffect (h : (jobEffect s a job).status = .queued) :
    job.status = .queued := by
  cases a with
  | reapExpiredBrowserJobs locked =>
    simp only [jobEffect] at h
    split at h
    · contradiction
    · exact h
  | _ =>
    simp only [jobEffect] at h
    grind [leaseBrowserJob, leaseWorkflowJob]

theorem ends_of_jobEffect (h : (jobEffect s a job).status.isTerminal = true) :
    job.status.isTerminal = true ∨
      (∃ executionID w, a = .completeBrowserJob executionID ∧
        s.workers.get? executionID = some w ∧ w.jobId = some job.id) ∨
      (a = .cancelRun job.runId ∧ job.status = .queued) ∨
      ∃ locked, a = .reapExpiredBrowserJobs locked ∧
        ∃ item ∈ expiredBrowserJobs s.now locked s.jobs, job.id = item.id := by
  cases a with
  | claimBrowserJob workerID jobID executionID =>
    grind [jobEffect, leaseBrowserJob, leaseWorkflowJob, ExecutionJobs.JobStatus.isTerminal]
  | completeBrowserJob executionID | cancelRun runID =>
    grind [jobEffect]
  | reapExpiredBrowserJobs locked =>
    simp only [jobEffect] at h
    split at h
    · rename_i hreaped
      exact .inr (.inr (.inr ⟨locked, rfl, hreaped⟩))
    · exact .inl h
  | _ =>
    simp only [jobEffect] at h
    refine .inl ?_
    grind

variable {row : BrowserRun}

/-- **A run that is over stays as it is.** -/
theorem status_runEffect (hG : KeepsFinal s a) (hrow : row ∈ s.runs)
    (hover : terminal row.status = true) : (runEffect s a row).status = row.status := by
  cases a with
  | execute executionID move =>
    simp only [runEffect, State.write?]
    cases hw : s.workers.get? executionID with
    | none => rfl
    | some w =>
      cases hwrite : w.write? move with
      | none => simp [hwrite]
      | some write =>
        simp only [Option.bind_some, hwrite, Option.map_some]
        split
        · rename_i hid
          rw [RunWrite.status_apply]
          obtain ⟨hspares, -⟩ := hG w (Table.mem_of_get? hw) (Table.key_of_get? hw)
          exact hspares write hwrite row hrow hid hover
        · rfl
  | cancelRun runID | reapExpiredBrowserJobs locked => simp [runEffect, hover]
  | _ => rfl

theorem runOver_step (h : step s a = some s') (hG : KeepsFinal s a) {runID : RunId}
    (hover : s.RunOver runID) : s'.RunOver runID := by
  obtain ⟨row, hrow, hid, hterminal⟩ := hover
  refine ⟨runEffect s a row, mem_runEffect h hrow, (runEffect_ids row).1.trans hid, ?_⟩
  rw [status_runEffect hG hrow hterminal, hterminal]

theorem keepsTerminal_step (h : step s a = some s') (hG : KeepsFinal s a) : KeepsTerminal s s' := by
  intro row hrow hover
  have hmem := Table.get?_of_mem (mem_runEffect h hrow)
  rw [(runEffect_ids row).1] at hmem
  rw [hmem, Option.map_some, status_runEffect hG hrow hover]

/-! ## Every step keeps the invariant -/

theorem row_unique {row row' : BrowserRun} (hrow : row ∈ s.runs) (hrow' : row' ∈ s.runs)
    (hid : row.id = row'.id) : row = row' :=
  Table.eq_of_key_eq hrow hrow' hid

theorem terminal_of_ends (hI : Invariant s) (h : step s a = some s') (hG : KeepsFinal s a)
    (hjob : job ∈ s.jobs) (hrow : row ∈ s.runs)
    (hid : row.id = job.runId) (hqueued : job.status = .queued → row.status = .queued)
    (hover : job.status.isTerminal = true → terminal row.status = true)
    (hends : (jobEffect s a job).status.isTerminal = true) :
    terminal (runEffect s a row).status = true := by
  have hkept : terminal row.status = true → terminal (runEffect s a row).status = true := by
    intro hterminal
    rw [status_runEffect hG hrow hterminal, hterminal]
  rcases ends_of_jobEffect hends with hbefore | ⟨executionID, w, rfl, hw, howner⟩ |
    ⟨rfl, hstatus⟩ | ⟨locked, rfl, item, hitem, hsame⟩
  · exact hkept (hover hbefore)
  · -- the worker has written the end of the run, or the condition says so
    obtain ⟨w', hw', hmay, -⟩ := step_complete h
    obtain rfl : w' = w := Option.some.inj (hw'.symm.trans hw)
    have hmem := Table.mem_of_get? hw
    have hnone : w'.jobId ≠ none := by
      rw [howner]
      simp
    obtain ⟨-, job', hjob', hjobId, hrunId⟩ := hI.jobOfWorker w' hmem job.id howner
    obtain rfl : job' = job := Table.eq_of_key_eq hjob' hjob hjobId
    have hrunOver : s.RunOver w'.runId := by
      cases hstage : w'.stage with
      | returned => exact hI.ended w' hmem hnone (.inl hstage)
      | completing => exact hI.ended w' hmem hnone (.inr hstage)
      | loadFailed => exact hG w' hmem (Table.key_of_get? hw) hnone hstage
      | _ => simp [Worker.mayComplete, hstage] at hmay
    obtain ⟨row', hrow', hid', hterminal⟩ := hrunOver
    obtain rfl : row' = row := row_unique hrow' hrow (by rw [hid', ← hrunId, hid])
    exact hkept hterminal
  · have hrowQueued := hqueued hstatus
    simp [runEffect, cancelRow, hid, hrowQueued, terminal]
  · have hmem := (mem_of_mem_expiredBrowserJobs hitem).1
    obtain rfl : item = job := Table.eq_of_key_eq hmem hjob hsame.symm
    cases hbefore : terminal row.status with
    | true => exact hkept hbefore
    | false =>
      have hreaped : ∃ expired ∈ expiredBrowserJobs s.now locked s.jobs,
          row.id = expired.runId ∧ terminal row.status = false := ⟨item, hitem, hid, hbefore⟩
      simp only [runEffect, if_pos hreaped]
      rfl

theorem queued_runEffect (hI : Invariant s) (hjob : job ∈ s.jobs)
    (hid : row.id = job.runId) (hrow : row.status = .queued)
    (hqueued : (jobEffect s a job).status = .queued) : (runEffect s a row).status = .queued := by
  have hstatus := queued_of_jobEffect hqueued
  cases a with
  | execute executionID move =>
    simp only [runEffect, State.write?]
    cases hw : s.workers.get? executionID with
    | none => exact hrow
    | some w =>
      cases hwrite : w.write? move with
      | none => simpa [hwrite] using hrow
      | some write =>
        simp only [Option.bind_some, hwrite, Option.map_some]
        split
        · rename_i hrunId
          have hmem := Table.mem_of_get? hw
          have hstarted := hI.started w hmem (stage_of_write hwrite) job hjob (by
            rw [← hid, hrunId])
          exact absurd hstatus hstarted
        · exact hrow
  | cancelRun runID =>
    grind [jobEffect, runEffect]
  | reapExpiredBrowserJobs locked =>
    have hnone : ¬ ∃ item ∈ expiredBrowserJobs s.now locked s.jobs,
        row.id = item.runId ∧ terminal row.status = false := by
      rintro ⟨item, hitem, hitemRun, -⟩
      obtain ⟨hmem, hleased⟩ := mem_of_mem_expiredBrowserJobs hitem
      obtain rfl := hI.jobOfRun item hmem job hjob (hitemRun.symm.trans hid)
      rw [hstatus] at hleased
      contradiction
    simp only [runEffect, if_neg hnone]
    exact hrow
  | _ => exact hrow

theorem runId_ne_of_insert (hI : Invariant s) {runs : BrowserRunTable}
    (h : s.runs.insert row = some runs) (hjob : job ∈ s.jobs) :
    job.runId ≠ row.id := by
  intro hrun
  obtain ⟨row', hrow', hid, -⟩ := hI.runOfJob job hjob
  exact Table.get?_eq_none_iff.mp (Table.get?_of_insert_eq_none h) row' hrow' (hid.trans hrun)

theorem runOfJob_step (hI : Invariant s) (h : step s a = some s') (hG : KeepsFinal s a)
    {job' : WorkflowJob} (hjob' : job' ∈ s'.jobs) :
    ∃ row ∈ s'.runs, row.id = job'.runId ∧ (job'.status = .queued → row.status = .queued) ∧
      (job'.status.isTerminal = true → terminal row.status = true) := by
  rcases job_cases h hjob' with ⟨job, hjob, rfl⟩ | ⟨monitorID, runID, jobID, rfl, rfl⟩
  · obtain ⟨row, hrow, hid, hqueued, hover⟩ := hI.runOfJob job hjob
    refine ⟨runEffect s a row, mem_runEffect h hrow, ?_, fun hafter => ?_, fun hafter => ?_⟩
    · rw [(runEffect_ids row).1, (jobEffect_ids job).2, hid]
    · exact queued_runEffect hI hjob hid (hqueued (queued_of_jobEffect hafter)) hafter
    · exact terminal_of_ends hI h hG hjob hrow hid hqueued hover hafter
  · obtain ⟨hruns, -, -⟩ := step_startRun h
    exact ⟨_, Table.mem_of_insert hruns, rfl, fun _ => rfl, fun hover => by
      simp [queuedWorkflowJob, ExecutionJobs.JobStatus.isTerminal] at hover⟩

theorem jobOfRun_step (hI : Invariant s) (h : step s a = some s') :
    ∀ job ∈ s'.jobs, ∀ job' ∈ s'.jobs, job.runId = job'.runId → job = job' := by
  intro job₁ hjob₁ job₂ hjob₂ hrun
  rcases job_cases h hjob₁ with ⟨job, hjob, rfl⟩ | ⟨monitorID, runID, jobID, ha, rfl⟩
  · rw [(jobEffect_ids job).2] at hrun
    rcases job_cases h hjob₂ with ⟨job', hjob', rfl⟩ | ⟨monitorID, runID, jobID, rfl, rfl⟩
    · rw [(jobEffect_ids job').2] at hrun
      rw [hI.jobOfRun job hjob job' hjob' hrun]
    · exact absurd hrun (runId_ne_of_insert hI (step_startRun h).1 hjob)
  · rcases job_cases h hjob₂ with ⟨job', hjob', rfl⟩ | ⟨monitorID', runID', jobID', ha', rfl⟩
    · rw [(jobEffect_ids job').2] at hrun
      subst ha
      exact absurd hrun.symm (runId_ne_of_insert hI (step_startRun h).1 hjob')
    · subst ha
      cases ha'
      rfl

theorem status_jobEffect_claim {workerID : WorkerId} {executionID : ExecutionId}
    (job : WorkflowJob) :
    (jobEffect s (.claimBrowserJob workerID job.id executionID) job).status = .leased := by
  simp [jobEffect, leaseBrowserJob, leaseWorkflowJob]

variable {w' : Worker}

theorem runOfWorker_step (hI : Invariant s) (h : step s a = some s')
    (hw' : w' ∈ s'.workers) (hstarted : w'.stage ≠ .inserting) :
    ∃ row ∈ s'.runs, row.id = w'.runId := by
  rcases worker_cases h hw' with ⟨w, hw, heffect⟩ | ⟨hinserting, -⟩ |
    ⟨workerID, executionID, job, hjob, rfl, rfl⟩
  · rw [(workerEffect_ids heffect).2.2]
    rcases inserting_of_workerEffect h hw heffect hstarted with hbefore | rfl
    · obtain ⟨row, hrow, hid⟩ := hI.runOfWorker w hw hbefore
      exact ⟨runEffect s a row, mem_runEffect h hrow, (runEffect_ids row).1.trans hid⟩
    · obtain ⟨owner, monitor, howner, -, -, hruns, -⟩ := step_insertRun h
      obtain rfl : owner = w := Option.some.inj (howner.symm.trans (Table.get?_of_mem hw))
      exact ⟨_, Table.mem_of_insert hruns, rfl⟩
  · exact absurd hinserting hstarted
  · obtain ⟨row, hrow, hid, -⟩ := hI.runOfJob job hjob
    exact ⟨runEffect s _ row, mem_runEffect h hrow, (runEffect_ids row).1.trans hid⟩

theorem started_step (hI : Invariant s) (h : step s a = some s')
    (hw' : w' ∈ s'.workers) (hstarted : w'.stage ≠ .inserting) {job' : WorkflowJob}
    (hjob' : job' ∈ s'.jobs) (hrun : job'.runId = w'.runId) : job'.status ≠ .queued := by
  intro hqueued
  rcases worker_cases h hw' with ⟨w, hw, heffect⟩ | ⟨hinserting, -⟩ |
    ⟨workerID, executionID, job, hjob, rfl, rfl⟩
  · rw [(workerEffect_ids heffect).2.2] at hrun
    rcases job_cases h hjob' with ⟨job, hjob, rfl⟩ | ⟨monitorID, runID, jobID, rfl, rfl⟩
    · rw [(jobEffect_ids job).2] at hrun
      rcases inserting_of_workerEffect h hw heffect hstarted with hbefore | rfl
      · exact hI.started w hw hbefore job hjob hrun (queued_of_jobEffect hqueued)
      · obtain ⟨owner, monitor, howner, -, -, hruns, -⟩ := step_insertRun h
        obtain rfl : owner = w := Option.some.inj (howner.symm.trans (Table.get?_of_mem hw))
        exact runId_ne_of_insert hI hruns hjob hrun
    · rcases inserting_of_workerEffect h hw heffect hstarted with hbefore | ha
      · obtain ⟨row, hrow, hid⟩ := hI.runOfWorker w hw hbefore
        have hfresh := Table.get?_of_insert_eq_none (step_startRun h).1
        exact Table.get?_eq_none_iff.mp hfresh row hrow (hid.trans hrun.symm)
      · cases ha
  · exact hstarted hinserting
  · rcases job_cases h hjob' with ⟨job₁, hjob₁, rfl⟩ | ⟨monitorID, runID, jobID, ha, -⟩
    · rw [(jobEffect_ids job₁).2] at hrun
      obtain rfl := hI.jobOfRun job₁ hjob₁ job hjob hrun
      rw [status_jobEffect_claim] at hqueued
      contradiction
    · cases ha

theorem jobOfWorker_step (hI : Invariant s) (h : step s a = some s')
    (hw' : w' ∈ s'.workers) {jobID : JobId} (howner : w'.jobId = some jobID) :
    w'.stage ≠ .inserting ∧ ∃ job ∈ s'.jobs, job.id = jobID ∧ job.runId = w'.runId := by
  rcases worker_cases h hw' with ⟨w, hw, heffect⟩ | ⟨-, hnone⟩ |
    ⟨workerID, executionID, job, hjob, rfl, rfl⟩
  · have hids := workerEffect_ids heffect
    rw [hids.2.1] at howner
    obtain ⟨hstage, job, hjob, hid, hrun⟩ := hI.jobOfWorker w hw jobID howner
    refine ⟨fun hinserting => ?_, jobEffect s a job, mem_jobEffect h hjob, ?_, ?_⟩
    · cases a with
      | execute executionID move =>
        simp only [workerEffect] at heffect
        split at heffect
        · obtain ⟨stage, hnext, rfl⟩ := Option.map_eq_some_iff.mp heffect
          have hnext : w.next move = some .inserting := hnext.trans (congrArg some hinserting)
          exact next_ne_inserting hnext
        · cases heffect
          exact hstage hinserting
      | watchBrowserJob executionID =>
        grind [workerEffect]
      | _ =>
        simp only [workerEffect] at heffect
        grind
    · rw [(jobEffect_ids job).1, hid]
    · rw [(jobEffect_ids job).2, hids.2.2, hrun]
  · rw [hnone] at howner
    exact absurd howner.symm (Option.some_ne_none _)
  · cases howner
    refine ⟨by simp, jobEffect s _ job, mem_jobEffect h hjob, (jobEffect_ids job).1, ?_⟩
    rw [(jobEffect_ids job).2]

theorem ends_of_workerEffect {w w' : Worker} (heffect : workerEffect s a w = some w')
    (hended : w'.stage = .returned ∨ w'.stage = .completing) :
    w.stage = .returned ∨ w.stage = .completing ∨
      (∃ newAlertID result, a = .execute w.id (.persistResult newAlertID true) ∧
        w.stage = .persisting result) ∨
      ∃ saved, a = .execute w.id (.finishFailure saved) ∧ (saved = true → ∃ failure : Failure,
        w.write? (.finishFailure saved) = some (.failed failure)) := by
  cases a with
  | execute executionID move =>
    simp only [workerEffect] at heffect
    split at heffect
    · rename_i hid
      subst hid
      obtain ⟨stage, hnext, rfl⟩ := Option.map_eq_some_iff.mp heffect
      cases move with
      | persistResult newAlertID committed =>
        grind [Worker.next, Bool.false_eq_true, Option.some.injEq]
      | finishFailure saved =>
        refine .inr (.inr (.inr ⟨saved, rfl, ?_⟩))
        rintro rfl
        cases hstage : w.stage with
        | failing failure => exact ⟨failure, by simp [Worker.write?, hstage]⟩
        | loadFailed => exact ⟨_, by simp only [Worker.write?, hstage]; rfl⟩
        | _ => simp [Worker.next, hstage] at hnext
      | runnerExecute result =>
        simp only [Worker.next] at hnext
        cases result <;> simp only [Option.elim_none, Option.elim_some] at hnext <;> grind
      | prepare preparation =>
        simp only [Worker.next] at hnext
        cases preparation <;>
          simp only [Preparation.failure?, Option.elim_none, Option.elim_some] at hnext <;> grind
      | updateRunState saved | persistArtifacts failed =>
        simp only [Worker.next] at hnext
        grind
    · cases heffect
      grind
  | watchBrowserJob executionID =>
    simp only [workerEffect] at heffect
    split at heffect
    · obtain ⟨_, -, rfl⟩ := Option.map_eq_some_iff.mp heffect
      grind
    · cases heffect
      grind
  | _ =>
    simp only [workerEffect] at heffect
    grind

theorem terminal_failure (failure : Failure) : terminal failure.status = true := by
  unfold Failure.status
  split <;> rfl

theorem runOver_of_write (hI : Invariant s) (h : step s a = some s') {w : Worker}
    (hw : w ∈ s.workers) {move : Move} (ha : a = .execute w.id move) {write : RunWrite}
    (hwrite : w.write? move = some write) (hterminal : terminal write.status = true) :
    s'.RunOver w.runId := by
  subst ha
  obtain ⟨row, hrow, hid⟩ := hI.runOfWorker w hw (stage_of_write hwrite)
  refine ⟨runEffect s _ row, mem_runEffect h hrow, (runEffect_ids row).1.trans hid, ?_⟩
  have hread : s.write? w.id move = some (w.runId, write) := by
    simp [State.write?, Table.get?_of_mem hw, hwrite]
  simp [runEffect, hread, hid, hterminal]

theorem ended_step (hI : Invariant s) (h : step s a = some s') (hG : KeepsFinal s a)
    (hw' : w' ∈ s'.workers) (howner : w'.jobId ≠ none)
    (hended : w'.stage = .returned ∨ w'.stage = .completing) : s'.RunOver w'.runId := by
  rcases worker_cases h hw' with ⟨w, hw, heffect⟩ | ⟨-, hnone⟩ |
    ⟨workerID, executionID, job, hjob, rfl, rfl⟩
  · have hids := workerEffect_ids heffect
    rw [hids.2.1] at howner
    rw [hids.2.2]
    rcases ends_of_workerEffect heffect hended with hbefore | hbefore |
      ⟨newAlertID, result, rfl, hstage⟩ | ⟨saved, rfl, hfailure⟩
    · exact runOver_step h hG (hI.ended w hw howner (.inl hbefore))
    · exact runOver_step h hG (hI.ended w hw howner (.inr hbefore))
    · obtain ⟨-, hends⟩ := hG w hw rfl
      have hterminal := hends howner result (by simp [hstage, Stage.result?])
      have hwrite : w.write? (.persistResult newAlertID true) = some (.ended result) := by
        simp only [Worker.write?, hstage]
      exact runOver_of_write hI h hw rfl hwrite hterminal
    · cases saved with
      | true =>
        obtain ⟨failure, hwrite⟩ := hfailure rfl
        exact runOver_of_write hI h hw rfl hwrite (terminal_failure failure)
      | false =>
        obtain ⟨-, hends⟩ := hG w hw rfl
        exact runOver_step h hG (hends howner)
  · exact absurd hnone howner
  · simp at hended

/-- **One step keeps the invariant.** -/
theorem invariant_step (hI : Invariant s) (h : step s a = some s') (hG : KeepsFinal s a) :
    Invariant s' where
  runOfJob := fun _ hjob => runOfJob_step hI h hG hjob
  jobOfRun := jobOfRun_step hI h
  runOfWorker := fun _ hw hstarted => runOfWorker_step hI h hw hstarted
  started := fun _ hw hstarted _ hjob hrun => started_step hI h hw hstarted hjob hrun
  jobOfWorker := fun _ hw _ howner => jobOfWorker_step hI h hw howner
  ended := fun _ hw howner hended => ended_step hI h hG hw howner hended

end Step

/-! ## Runs -/

/-- **Finality.**  Along every run of the queue whose steps keep runs final, for any interleaving,
losses of workers and failures: no run that is over is changed again, and every job that has
ended without a worker has a run that is over. -/
theorem final_along (now : Time) (as : List Action)
    (h : Along step (fun s a _ => KeepsFinal s a) (initial now) as) :
    Along step (fun s _ s' => KeepsTerminal s s' ∧ Finished s') (initial now) as := by
  refine Along.of_guard (I := Invariant) (fun s a s' hI hstep hG => ?_) (invariant_initial now) h
  have hI' := invariant_step hI hstep hG
  exact ⟨hI', keepsTerminal_step hstep hG, hI'.finished⟩

def successfulResult : RunnerResult where
  status := some .success
  warningCount := 0
  artifactUploadFailures := 0
  failureCategory := ""
  failureReason := ""
  failedStepId := ""

def successfulRun : List Action :=
  [.createMonitor 1, .startRun 1 1 1, .claimBrowserJob 7 1 1, .load 1 true,
    .execute 1 (.updateRunState true), .execute 1 (.prepare .ready),
    .execute 1 (.updateRunState true), .execute 1 (.runnerExecute (some successfulResult)),
    .execute 1 (.updateRunState true), .execute 1 (.persistArtifacts false),
    .execute 1 (.persistResult 1 true), .completeBrowserJob 1]

theorem final_along_successful :
    Along step (fun s _ s' => KeepsTerminal s s' ∧ Finished s') (initial 0) successfulRun :=
  final_along 0 successfulRun (by decide +kernel)

/-- A run that is cancelled after its job was claimed is started again. -/
theorem cancelled_run_restarted :
    ¬ ∀ now as,
      Along step (fun s _ s' => KeepsTerminal s s' ∧ Finished s') (initial now) as := by
  intro h
  have hrun := h 0 [.createMonitor 1, .startRun 1 1 1, .claimBrowserJob 7 1 1, .load 1 true,
    .cancelRun 1, .execute 1 (.updateRunState true)]
  revert hrun
  decide +kernel

end Rhythm.BrowserMonitors
